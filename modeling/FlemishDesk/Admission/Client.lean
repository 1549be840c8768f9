import FlemishDesk.Http.Address
import FlemishDesk.Http.Header

/-!
# Telling clients apart

A client is known by the first address that a proxy forwarded, else by the real
address that a proxy reported, else by the address of the connection.  Clients
without any of these share one key.
-/

namespace FlemishDesk
namespace Admission

/-- The key of the clients of which nothing is known. -/
def unknownClient : String := "unknown"

/-- The part of a text before its first comma. -/
def beforeComma (text : String) : String :=
  String.ofList (text.toList.takeWhile (· != ','))

/-- The key under which the requests of a client are counted. -/
def clientKey (headers : Http.Headers) (peer : Option Http.Address) : String :=
  match headers.filled? "x-forwarded-for" with
  | some forwarded => Text.trimmed (beforeComma forwarded)
  | none =>
      match headers.filled? "x-real-ip" with
      | some reported => reported
      | none =>
          match peer with
          | some address => address.text
          | none => unknownClient

end Admission
end FlemishDesk
