import FlemishDesk.Number.Integer

/-!
# Limits on requests

How long a conversation may be, and how often a client may ask.  The limit on the
bytes of a request follows from the limit on its characters.
-/

namespace FlemishDesk
namespace Server

/-- The limits on requests. -/
structure Limits where
  /-- The budget of characters for a conversation. -/
  maxInputChars : Nat
  /-- How many requests a client may make in a minute. -/
  requestsPerMinute : Int
deriving DecidableEq, Repr

/-- The greatest number of bytes in the body of a request: eight for every
character, as far as sixty-four bits can tell. -/
def Limits.maxBodyBytes (limits : Limits) : Nat :=
  min (limits.maxInputChars * 8) (Number.wordBound - 1)

end Server
end FlemishDesk
