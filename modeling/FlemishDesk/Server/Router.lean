import FlemishDesk.Server.Chat
import FlemishDesk.Server.Site

/-!
# Routes

The server knows two paths, compared letter for letter: the chat endpoint and a
sign of life.  Other paths are looked up in the site, if there is one.  Pages of
every origin may use the server: every response says so, and a request that asks
for permission is answered without reaching a route.
-/

namespace FlemishDesk
namespace Server

/-- The path of the chat endpoint. -/
def chatPath : String := "/api/chat"

/-- The path of the sign of life. -/
def healthPath : String := "/health"

/-- A server: what it is told, and the state that requests change. -/
structure State (σ : Type) where
  /-- Who was admitted when. -/
  limiter : Admission.Limiter
  /-- The state of the model. -/
  model : σ

/-- The fixed surroundings of a server. -/
structure Setup (σ : Type) where
  /-- The limits on requests. -/
  limits : Limits
  /-- The model that answers. -/
  model : Chat.Model σ
  /-- The files that are served beside the endpoint. -/
  site : Option Site

/-- A server that has seen no request. -/
def Setup.start {σ : Type} (setup : Setup σ) (model : σ) : State σ :=
  ⟨.fresh setup.limits.requestsPerMinute, model⟩

/-- The header fields of every response. -/
def everyOrigin : Http.Headers :=
  [("access-control-allow-origin", "*"),
   ("vary", "origin, access-control-request-method, access-control-request-headers")]

/-- The methods that a path allows, as far as the path is a route of its own. -/
def allowedMethods (path : String) : Http.Headers :=
  if path == chatPath then [("allow", "POST")]
  else if path == healthPath then [("allow", "GET,HEAD")]
  else []

/-- The answer to a page that asks for permission. -/
def permission (path : String) : Http.Response :=
  .empty 200
    (everyOrigin ++
      [("access-control-allow-methods", "GET,POST,OPTIONS"),
       ("access-control-allow-headers", "content-type")] ++ allowedMethods path)

/-- The response to a request that is not for the chat endpoint. -/
def answerOther (site : Option Site) (request : Http.Request) : Http.Response :=
  if request.path == chatPath then
    (Http.Response.error 405 "METHOD_NOT_ALLOWED" "Da mag ni.").withHeaders
      (allowedMethods chatPath)
  else if request.path == healthPath then
    if request.method == "GET" || request.method == "HEAD" then
      .json 200 (.object [("status", .string "ok")])
    else
      .empty 405 (allowedMethods healthPath)
  else
    match site with
    | some site => site.respond request
    | none => .error 404 "NOT_FOUND" "Da bestaat hier ni."

/-- The request is for the chat endpoint. -/
def isChat (request : Http.Request) : Bool :=
  request.method == "POST" && request.path == chatPath

/-- Find the route of a request. -/
def route {σ : Type} (setup : Setup σ) (now : Nat) (request : Http.Request)
    (state : State σ) :
    Http.Response × State σ :=
  if isChat request then
    let (response, limiter, model) :=
      answerChat setup.limits setup.model now request state.limiter state.model
    (response, ⟨limiter, model⟩)
  else
    (answerOther setup.site request, state)

/-- Handle a request that arrives at a time. -/
def handle {σ : Type} (setup : Setup σ) (now : Nat) (request : Http.Request)
    (state : State σ) :
    Http.Response × State σ :=
  if request.method == "OPTIONS" then
    (permission request.path, state)
  else
    let (response, state) := route setup now request state
    let response := if request.method == "HEAD" then response.withoutBody else response
    (response.withHeaders everyOrigin, state)

/-- Handle requests one after another, each with its time of arrival; every
response comes with the state after it. -/
def serve {σ : Type} (setup : Setup σ) :
    State σ -> List (Nat × Http.Request) -> List (Http.Response × State σ)
  | _, [] => []
  | state, (now, request) :: others =>
      let (response, next) := handle setup now request state
      (response, next) :: serve setup next others

end Server
end FlemishDesk
