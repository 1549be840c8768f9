/-!
# Admission of clients

A limiter admits a client as long as fewer than `limit` of its requests were
admitted in the last sixty seconds.  Every client has its own queue of the times
at which it was admitted, oldest first.  A request drops from the front of the
queue what lies too far back; a refused request is not recorded.  Times are
nanoseconds and may run backwards, and an elapsed time is then zero.
-/

namespace FlemishDesk
namespace Admission

/-- The length of the window in nanoseconds. -/
def window : Nat := 60000000000

/-- The queues of the clients, in the order in which the clients appeared. -/
abbrev Queues := List (String × List Nat)

namespace Queues

/-- The times at which a client was admitted. -/
def times (queues : Queues) (client : String) : List Nat :=
  (queues.lookup client).getD []

/-- Give a client a queue. -/
def put (client : String) (queue : List Nat) : Queues -> Queues
  | [] => [(client, queue)]
  | entry :: others =>
      if entry.1 == client then (client, queue) :: others
      else entry :: put client queue others

end Queues

/-- Drop the times at the front of a queue that lie before the window. -/
def prune (now : Nat) (queue : List Nat) : List Nat :=
  queue.dropWhile fun time => now - time > window

/-- The state of a limiter.  Without a positive limit every request is admitted. -/
structure Limiter where
  /-- How many requests a client may make in a window. -/
  limit : Int
  /-- The queues of the clients that are tracked. -/
  queues : Queues
deriving DecidableEq, Repr

namespace Limiter

/-- A limiter that has seen no request. -/
def fresh (limit : Int) : Limiter :=
  ⟨limit, []⟩

/-- Requests are limited at all. -/
def isEnabled (limiter : Limiter) : Bool :=
  limiter.limit > 0

/-- How many clients are tracked. -/
def tracked (limiter : Limiter) : Nat :=
  limiter.queues.length

/-- Decide on a request of a client, and record it when it is admitted. -/
def allow (limiter : Limiter) (client : String) (now : Nat) : Bool × Limiter :=
  if limiter.isEnabled then
    let recent := prune now (limiter.queues.times client)
    if (recent.length : Int) ≥ limiter.limit then
      (false, { limiter with queues := limiter.queues.put client recent })
    else
      (true, { limiter with queues := limiter.queues.put client (recent ++ [now]) })
  else
    (true, limiter)

/-- Prune every queue and forget the clients whose queue is empty. -/
def evict (limiter : Limiter) (now : Nat) : Limiter :=
  { limiter with
    queues := (limiter.queues.map fun entry => (entry.1, prune now entry.2)).filter
      fun entry => !entry.2.isEmpty }

/-- An event in the life of a limiter. -/
inductive Event where
  /-- A client makes a request. -/
  | request (client : String) (now : Nat)
  /-- Idle clients are forgotten. -/
  | sweep (now : Nat)
deriving DecidableEq, Repr

/-- What a limiter answers to an event. -/
inductive Answer where
  /-- Whether the request was admitted. -/
  | admitted (allowed : Bool)
  /-- How many clients were forgotten. -/
  | forgotten (count : Nat)
deriving DecidableEq, Repr

/-- Handle one event. -/
def step (limiter : Limiter) : Event -> Answer × Limiter
  | .request client now =>
      let (allowed, limiter) := limiter.allow client now
      (.admitted allowed, limiter)
  | .sweep now =>
      let swept := limiter.evict now
      (.forgotten (limiter.tracked - swept.tracked), swept)

/-- Handle events one after another; the answers come with the state after each
event. -/
def run (limiter : Limiter) : List Event -> List (Answer × Limiter)
  | [] => []
  | event :: others =>
      let (answer, next) := limiter.step event
      (answer, next) :: next.run others

@[simp]
theorem run_nil (limiter : Limiter) : limiter.run [] = [] := rfl

@[simp]
theorem run_cons (limiter : Limiter) (event : Event) (others : List Event) :
    limiter.run (event :: others) =
      limiter.step event :: (limiter.step event).2.run others := rfl

end Limiter
end Admission
end FlemishDesk
