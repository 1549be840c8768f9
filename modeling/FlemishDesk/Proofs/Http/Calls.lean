import FlemishDesk.Http.Exchange
import FlemishDesk.Http.Status

/-!
# Calls to other servers

The calls that reach a network are observed by a network that lists them; a call that
cannot be made is attempted, but never gets there.  A caller has an answer exactly when
the call could be made and the answer came in time.
-/

namespace FlemishDesk
namespace Http

variable {σ : Type} {network : Network σ} {limit : Option Number.Duration} {call : Call}
  {state after : σ} {result : Result}

theorem isSuccess_iff (status : Nat) :
    isSuccess status = true <-> 200 ≤ status ∧ status < 300 := by
  simp [isSuccess]

/-! ## Calls in sequence -/

/-- The network with a list of the calls that reach it, in order. -/
def recorded (network : Network σ) : Network (σ × List Call) where
  accepts := network.accepts
  deliver := fun call state =>
    ((network.deliver call state.1).1,
      ((network.deliver call state.1).2, state.2 ++ [call]))

/-- The calls of a list that can be made, and so reach the network. -/
def reaching (network : Network σ) (calls : List Call) : List Call :=
  calls.filter fun call => (network.obstacle? call).isNone

theorem reaching_append (network : Network σ) (calls others : List Call) :
    reaching network (calls ++ others) = reaching network calls ++
      reaching network others :=
  List.filter_append _ _

theorem mem_reaching_singleton_iff {other : Call} :
    other ∈ reaching network [call] <-> other = call ∧ network.obstacle? call = none := by
  simp only [reaching, List.mem_filter, List.mem_singleton, Option.isNone_iff_eq_none]
  constructor
  · rintro ⟨rfl, free⟩
    exact ⟨rfl, free⟩
  · rintro ⟨rfl, free⟩
    exact ⟨rfl, free⟩

theorem send_recorded
    (sent : send network limit call state = (result, after))
    (calls : List Call) :
    send (recorded network) limit call (state, calls) =
      (result, (after, calls ++ reaching network [call])) := by
  have sameObstacle : (recorded network).obstacle? call = network.obstacle? call := rfl
  unfold send at sent ⊢
  rw [sameObstacle]
  cases obstacle : network.obstacle? call with
  | some failure =>
      rw [obstacle] at sent
      cases sent
      simp [reaching, obstacle]
  | none =>
      rw [obstacle] at sent
      cases sent
      simp [recorded, reaching, obstacle]

/-- Calls are made one after another without a time limit, each with its result. -/
inductive Exchanges (network : Network σ) : σ -> List (Call × Result) -> σ -> Prop where
  | nil (state : σ) : Exchanges network state [] state
  | cons {call : Call} {result : Result} {state next after : σ}
      {others : List (Call × Result)}
      (sent : send network none call state = (result, next))
      (rest : Exchanges network next others after) :
      Exchanges network state ((call, result) :: others) after

/-! ## Answers in time -/

theorem within_eq_answered_iff
    {arrival : Arrival}
    {status : Nat}
    {body : Option (List UInt8)} :
    arrival.within limit = .answered status body <->
      arrival.delivery = .answered status body ∧
        ∀ time ∈ limit, arrival.nanoseconds ≤ time.inNanoseconds := by
  cases limit with
  | none => simp [Arrival.within]
  | some time =>
      by_cases inTime : arrival.nanoseconds ≤ time.inNanoseconds <;>
        simp [Arrival.within, inTime]

/-- The caller gets an answer when the call can be made and the answer comes in time. -/
theorem send_eq_answer_iff {status : Nat} {body : Option (List UInt8)} :
    (send network limit call state).1 = .answer status body <->
      network.obstacle? call = none ∧
        (network.deliver call state).1.delivery = .answered status body ∧
        ∀ time ∈ limit, (network.deliver call state).1.nanoseconds ≤
          time.inNanoseconds := by
  rw [← within_eq_answered_iff]
  unfold send
  cases network.obstacle? call with
  | some failure => simp
  | none =>
      dsimp only
      cases (network.deliver call state).1.within limit <;> simp [Delivery.result]

end Http
end FlemishDesk
