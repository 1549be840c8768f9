import FlemishDesk.Http.Address
import FlemishDesk.Http.Header
import FlemishDesk.Http.Target
import FlemishDesk.Json.Writer

/-!
# Requests and responses

The requests that a server gets and the responses that it gives.
-/

namespace FlemishDesk
namespace Http

/-- A request to a server. -/
structure Request where
  /-- The method, such as `GET`. -/
  method : String
  /-- What the request asks for. -/
  target : Target
  /-- The header fields. -/
  headers : Headers
  /-- The bytes of the body. -/
  body : List UInt8
  /-- The address of the other end of the connection. -/
  peer : Option Address
deriving DecidableEq, Repr

/-- The path that the request asks for. -/
def Request.path (request : Request) : String :=
  request.target.path

/-- A response of a server. -/
structure Response where
  /-- The status code. -/
  status : Nat
  /-- The header fields. -/
  headers : Headers
  /-- The bytes of the body. -/
  body : List UInt8
deriving DecidableEq, Repr

namespace Response

/-- A response without a body. -/
def empty (status : Nat) (headers : Headers) : Response :=
  ⟨status, headers, []⟩

/-- A response with a JSON body, which is not to be kept in a cache. -/
def json (status : Nat) (body : Json) : Response where
  status := status
  headers := [("content-type", "application/json"), ("cache-control", "no-store")]
  body := Text.Utf8.bytes body.compact

/-- A response that tells what is wrong. -/
def error (status : Nat) (code message : String) : Response :=
  json status (.object
    [("error", .object [("code", .string code), ("message", .string message)])])

/-- The response with more header fields. -/
def withHeaders (response : Response) (headers : Headers) : Response :=
  { response with headers := response.headers ++ headers }

/-- The response without its body. -/
def withoutBody (response : Response) : Response :=
  { response with body := [] }

end Response
end Http
end FlemishDesk
