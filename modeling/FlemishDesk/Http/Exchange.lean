import FlemishDesk.Http.Url
import FlemishDesk.Json.Writer
import FlemishDesk.Number.Duration
import FlemishDesk.Text.Utf16

/-!
# Calling other servers

A call is a request to another server; a delivery is what comes of it after some time.
A network decides which addresses can be called, and works on its own state, so that the
calls that reach it can be observed.  Calls that cannot be made at all never reach it.
-/

namespace FlemishDesk
namespace Http

/-- A request to another server. -/
structure Call where
  /-- The method. -/
  method : String
  /-- The address. -/
  url : String
  /-- The kinds of answers that are accepted. -/
  accept : String
  /-- The proof of identity, if one is sent. -/
  authorization : Option String
  /-- Who calls. -/
  userAgent : String
  /-- The kind of the body, if there is one. -/
  contentType : Option String
  /-- The body. -/
  body : String
deriving DecidableEq, Repr

/-- What comes of a call. -/
inductive Delivery where
  /-- An answer; the body is `none` when the connection ends before it does. -/
  | answered (status : Nat) (body : Option (List UInt8))
  /-- The connection is closed without an answer. -/
  | dropped
  /-- No answer ever comes. -/
  | silent
  /-- There is no way to the other server. -/
  | unreachable
deriving DecidableEq, Repr

/-- What comes of a call, and when. -/
structure Arrival where
  /-- What comes of the call. -/
  delivery : Delivery
  /-- After how many nanoseconds it has come in full. -/
  nanoseconds : Nat
deriving DecidableEq, Repr

/-- A network with internal state. -/
structure Network (σ : Type) where
  /-- The text is an address that calls can be sent to. -/
  accepts : String -> Bool
  /-- What comes of a call that is sent. -/
  deliver : Call -> σ -> Arrival × σ

/-- Why a call brought no answer. -/
inductive Failure where
  /-- The address is not one that calls can be sent to. -/
  | badAddress
  /-- A header field holds a control character. -/
  | badHeader
  /-- The connection was closed without an answer. -/
  | dropped
  /-- There is no way to the other server. -/
  | unreachable
deriving DecidableEq, Repr

/-- The reasons for a failed call, the outermost first. -/
def Failure.causes (url : String) : Failure -> List String
  | .badAddress => ["builder error"]
  | .badHeader => ["builder error", "failed to parse header value"]
  | .dropped =>
      ["error sending request for url (" ++ Url.canonical url ++ ")",
       "client error (SendRequest)",
       "connection closed before message completed"]
  | .unreachable =>
      ["error sending request for url (" ++ Url.canonical url ++ ")",
       "client error (Connect)",
       "tcp connect error",
       "Network is unreachable (os error 101)"]

/-- A character that a header field may hold. -/
def isHeaderChar (c : Char) : Bool :=
  c == '\t' || (0x20 ≤ c.toNat && c.toNat != 0x7F)

/-- Why a call cannot be made, if it cannot. -/
def Network.obstacle? {σ : Type} (network : Network σ) (call : Call) : Option Failure :=
  if !network.accepts call.url then some .badAddress
  else if !(call.authorization.getD "").toList.all isHeaderChar then some .badHeader
  else none

/-- What a caller gets: an answer, a failure, or nothing at all. -/
inductive Result where
  /-- An answer; the body is `none` when it could not be read to its end. -/
  | answer (status : Nat) (body : Option (List UInt8))
  /-- The call failed. -/
  | failed (failure : Failure)
  /-- No answer ever comes. -/
  | silent
deriving DecidableEq, Repr

/-- What a delivery means to the caller. -/
def Delivery.result : Delivery -> Result
  | .answered status body => .answer status body
  | .dropped => .failed .dropped
  | .silent => .silent
  | .unreachable => .failed .unreachable

/-- What has come to a caller who waits no longer than a limit, if there is one. -/
def Arrival.within (limit : Option Number.Duration) (arrival : Arrival) : Delivery :=
  if limit.all fun limit => arrival.nanoseconds ≤ limit.inNanoseconds then
    arrival.delivery
  else .silent

/-- Make a call and wait for what comes of it, no longer than a limit, if there is
one. -/
def send {σ : Type} (network : Network σ) (limit : Option Number.Duration) (call : Call)
    (state : σ) : Result × σ :=
  match network.obstacle? call with
  | some failure => (.failed failure, state)
  | none =>
      let (arrival, state) := network.deliver call state
      ((arrival.within limit).result, state)

/-- The call that asks for a page. -/
def Call.get (url accept userAgent : String) (authorization : Option String) : Call :=
  ⟨"GET", url, accept, authorization, userAgent, none, ""⟩

/-- The call that delivers a JSON value. -/
def Call.post (url userAgent : String) (authorization : Option String) (body : Json) :
    Call :=
  ⟨"POST", url, "*/*", authorization, userAgent, some "application/json", body.compact⟩

/-- The text of the body of an answer.  A mark of the byte order at its start tells how
the text is written, and is dropped; a body that could not be read to its end is
empty. -/
def bodyText (body : Option (List UInt8)) : String :=
  match body with
  | none => ""
  | some (0xEF :: 0xBB :: 0xBF :: content) => Text.Utf8.lenient content
  | some (0xFE :: 0xFF :: content) => Text.Utf16.lenient .big content
  | some (0xFF :: 0xFE :: content) => Text.Utf16.lenient .little content
  | some content => Text.Utf8.lenient content

/-- The network of a host whose link is down: no call leaves it. -/
def linkDown {σ : Type} (accepts : String -> Bool) : Network σ where
  accepts := accepts
  deliver := fun _ state => (⟨.unreachable, 0⟩, state)

end Http
end FlemishDesk
