import FlemishDesk.Proofs.Admission.Window

/-!
# Clients in isolation

All clients share one table, which a sweep changes as a whole.  A client nevertheless
sees only its own requests and the sweeps: what an event makes of the queue of a client
depends on that queue alone, and a request of another client leaves it as it is.  So a
run can be relieved of any requests of other clients, at times in any order, and the
client is answered and remembered as before.  Being remembered includes being forgotten:
a client without a queue is told from one whose queue is empty.
-/

namespace FlemishDesk
namespace Admission

namespace Limiter

/-! ## What an event makes of a queue -/

/-- The answer to a request of a client that has this queue, or none, and the queue that
the client has afterwards. -/
def decideRequest (limit : Int) (now : Nat) (queue : Option (List Nat)) :
    Bool × Option (List Nat) :=
  if limit > 0 then
    if ((prune now (queue.getD [])).length : Int) ≥ limit then
      (false, some (prune now (queue.getD [])))
    else
      (true, some (prune now (queue.getD []) ++ [now]))
  else
    (true, queue)

/-- A request is decided by the queue of its client alone. -/
theorem decideRequest_lookup
    (limiter : Limiter)
    (client : String)
    (now : Nat) :
    decideRequest limiter.limit now (limiter.queues.lookup client) =
      ((limiter.allow client now).1,
        (limiter.allow client now).2.queues.lookup client) := by
  by_cases positive : limiter.limit > 0
  · by_cases full :
        ((prune now ((limiter.queues.lookup client).getD [])).length : Int) ≥
          limiter.limit <;>
      simp [decideRequest, allow, isEnabled, Queues.times, positive, full,
        Queues.lookup_put]
  · simp [decideRequest, allow, isEnabled, positive]

/-- A request leaves the queues of other clients as they are. -/
theorem lookup_allow_of_ne
    (limiter : Limiter)
    {client requester : String}
    (different : client ≠ requester)
    (now : Nat) :
    (limiter.allow requester now).2.queues.lookup client =
      limiter.queues.lookup client := by
  simp only [allow]
  split
  · split <;> simp [Queues.lookup_put, different]
  · rfl

theorem distinct_step
    {limiter : Limiter}
    (distinct : limiter.queues.Distinct)
    (event : Event) :
    (limiter.step event).2.queues.Distinct := by
  cases event with
  | request client now =>
      simp only [step, allow]
      split
      · split <;> exact distinct.put client _
      · exact distinct
  | sweep now => exact distinct.swept now

/-! ## One client in two limiters -/

/-- Two limiters agree on a client: they have the same limit and the same queue for
it. -/
structure AgreeOn (client : String) (one other : Limiter) : Prop where
  limit : one.limit = other.limit
  /-- No client has two queues in the first limiter. -/
  distinctOne : one.queues.Distinct
  /-- No client has two queues in the second limiter. -/
  distinctOther : other.queues.Distinct
  /-- Either both limiters track the client, with the same times, or neither does. -/
  queue : one.queues.lookup client = other.queues.lookup client

/-- The event is a request of a client other than this one. -/
def Event.isRequestBeside (client : String) : Event -> Bool
  | .request other _ => other != client
  | .sweep _ => false

theorem Event.not_isRequestOf_of_beside
    {client : String}
    {event : Event}
    (beside : event.isRequestBeside client = true) :
    event.isRequestOf client = false := by
  cases event with
  | request other now => simpa [isRequestBeside, isRequestOf] using beside
  | sweep now => rfl

namespace AgreeOn

variable {client : String} {one other : Limiter}

theorem refl
    {limiter : Limiter}
    (distinct : limiter.queues.Distinct) :
    AgreeOn client limiter limiter :=
  ⟨rfl, distinct, distinct, rfl⟩

/-- Limiters that agree on a client do the same with its requests. -/
theorem allow
    (agree : AgreeOn client one other)
    (now : Nat) :
    (one.allow client now).1 = (other.allow client now).1 ∧
      (one.allow client now).2.queues.lookup client =
        (other.allow client now).2.queues.lookup client := by
  have same := decideRequest_lookup one client now
  rw [agree.limit, agree.queue, decideRequest_lookup] at same
  exact ⟨(Prod.mk.inj same).1.symm, (Prod.mk.inj same).2.symm⟩

/-- Limiters that agree on a client give its requests the same answers. -/
theorem answer
    (agree : AgreeOn client one other)
    {event : Event}
    (own : event.isRequestOf client = true) :
    (one.step event).1 = (other.step event).1 := by
  cases event with
  | sweep now => simp [Event.isRequestOf] at own
  | request requester now =>
      obtain rfl : requester = client := by simpa [Event.isRequestOf] using own
      exact congrArg Answer.admitted (agree.allow now).1

/-- Limiters that agree on a client still do so after the same event. -/
theorem step
    (agree : AgreeOn client one other)
    (event : Event) :
    AgreeOn client (one.step event).2 (other.step event).2 := by
  refine ⟨by simpa using agree.limit, distinct_step agree.distinctOne event,
    distinct_step agree.distinctOther event, ?_⟩
  cases event with
  | sweep now =>
      have sweptOne := Queues.lookup_swept agree.distinctOne now client
      rw [agree.queue] at sweptOne
      exact sweptOne.trans (Queues.lookup_swept agree.distinctOther now client).symm
  | request requester now =>
      by_cases same : client = requester
      · subst same
        exact (agree.allow now).2
      · calc
          (one.allow requester now).2.queues.lookup client
          _ = one.queues.lookup client := lookup_allow_of_ne one same now
          _ = other.queues.lookup client := agree.queue
          _ = (other.allow requester now).2.queues.lookup client :=
              (lookup_allow_of_ne other same now).symm

/-- A request of another client changes nothing on which limiters agree. -/
theorem step_beside
    (agree : AgreeOn client one other)
    {event : Event}
    (beside : event.isRequestBeside client = true) :
    AgreeOn client one (other.step event).2 := by
  refine ⟨by simpa using agree.limit, agree.distinctOne,
    distinct_step agree.distinctOther event, agree.queue.trans ?_⟩
  cases event with
  | sweep now => simp [Event.isRequestBeside] at beside
  | request requester now =>
      have different : requester ≠ client := by simpa [Event.isRequestBeside] using beside
      exact (lookup_allow_of_ne other different.symm now).symm

end AgreeOn

/-! ## Runs with and without other clients -/

/-- The run without the events at the deleted positions. -/
def without (deleted : Nat -> Bool) : List Event -> List Event
  | [] => []
  | event :: others =>
      if deleted 0 then without (fun position => deleted (position + 1)) others
      else event :: without (fun position => deleted (position + 1)) others

/-- Only requests of clients other than this one stand at the deleted positions. -/
def Spares (client : String) (deleted : Nat -> Bool) (events : List Event) : Prop :=
  ∀ position event, deleted position = true -> events[position]? = some event ->
    event.isRequestBeside client = true

theorem Spares.tail
    {client : String}
    {deleted : Nat -> Bool}
    {event : Event}
    {others : List Event}
    (spares : Spares client deleted (event :: others)) :
    Spares client (fun position => deleted (position + 1)) others :=
  fun position later isDeleted present =>
    spares (position + 1) later isDeleted (by rwa [List.getElem?_cons_succ])

theorem Spares.take
    {client : String}
    {deleted : Nat -> Bool}
    {events : List Event}
    (spares : Spares client deleted events)
    (count : Nat) :
    Spares client deleted (events.take count) := by
  intro position event isDeleted present
  rw [List.getElem?_take] at present
  split at present
  · exact spares position event isDeleted present
  · cases present

/-- Deleting events from the beginning of a run gives a beginning of what is left of the
run. -/
theorem without_take_isPrefix
    (deleted : Nat -> Bool)
    (events : List Event)
    (count : Nat) :
    without deleted (events.take count) <+: without deleted events := by
  induction events generalizing deleted count with
  | nil => simp
  | cons event others inductionHypothesis =>
      cases count with
      | zero => exact List.nil_prefix
      | succ count =>
          rw [List.take_succ_cons, without, without]
          split
          · exact inductionHypothesis _ count
          · exact (List.prefix_cons_inj event).mpr (inductionHypothesis _ count)

namespace AgreeOn

variable {client : String} {one other : Limiter}

/-- Limiters that agree on a client still do so when the first of them is spared some
requests of other clients. -/
theorem after
    (agree : AgreeOn client one other)
    {deleted : Nat -> Bool}
    {events : List Event}
    (spares : Spares client deleted events) :
    AgreeOn client (one.after (without deleted events)) (other.after events) := by
  induction events generalizing one other deleted with
  | nil => exact agree
  | cons event others inductionHypothesis =>
      rw [without]
      split
      · next isDeleted =>
          exact inductionHypothesis (agree.step_beside (spares 0 event isDeleted rfl))
            spares.tail
      · exact inductionHypothesis (agree.step event) spares.tail

/-- They also give the requests of the client the same answers. -/
theorem filter_history
    (agree : AgreeOn client one other)
    {deleted : Nat -> Bool}
    {events : List Event}
    (spares : Spares client deleted events) :
    (one.history (without deleted events)).filter
      (fun entry => entry.1.isRequestOf client) =
      (other.history events).filter fun entry => entry.1.isRequestOf client := by
  induction events generalizing one other deleted with
  | nil => rfl
  | cons event others inductionHypothesis =>
      rw [without, history_cons]
      split
      · next isDeleted =>
          have beside := spares 0 event isDeleted rfl
          rw [inductionHypothesis (agree.step_beside beside) spares.tail,
            List.filter_cons_of_neg (by simp [Event.not_isRequestOf_of_beside beside])]
      · rw [history_cons, List.filter_cons, List.filter_cons,
          inductionHypothesis (agree.step event) spares.tail]
        split
        · next own => rw [agree.answer own]
        · rfl

end AgreeOn

/-- A client is isolated from the others.  Whatever the limit and the order of the
times, deleting any requests of other clients from a run changes no answer to a request
of the client, and at no point of the run what is stored for it: the times in its queue,
or that it is not tracked. -/
theorem isolated_from_other_clients
    (limit : Int)
    (events : List Event)
    (client : String)
    (deleted : Nat -> Bool)
    (spares : ∀ position event, deleted position = true ->
      events[position]? = some event ->
      ∃ requester now, event = .request requester now ∧ requester ≠ client) :
    ((fresh limit).history (without deleted events)).filter
        (fun entry => entry.1.isRequestOf client) =
      ((fresh limit).history events).filter (fun entry => entry.1.isRequestOf client) ∧
    ∀ count,
      without deleted (events.take count) <+: without deleted events ∧
      ((fresh limit).after (without deleted (events.take count))).queues.lookup client =
        ((fresh limit).after (events.take count)).queues.lookup client := by
  have sparesClient : Spares client deleted events := by
    intro position event isDeleted present
    obtain ⟨requester, now, rfl, different⟩ := spares position event isDeleted present
    simpa [Event.isRequestBeside] using different
  have agree : AgreeOn client (fresh limit) (fresh limit) := AgreeOn.refl List.nodup_nil
  refine ⟨agree.filter_history sparesClient, fun count => ⟨?_, ?_⟩⟩
  · exact without_take_isPrefix deleted events count
  · exact (agree.after (sparesClient.take count)).queue

/-- A run of two clients in which time runs backwards and a sweep forgets one of
them. -/
def crossedRun : List Event :=
  [.request "b" 5, .request "a" 100, .request "b" 50, .request "a" 70, .sweep 60000000101,
    .request "b" 60000000102, .request "a" 10]

/-- Without two of the requests of the other client, the client is refused at the same
moment, forgotten by the sweep and admitted again, with the same times stored on the
way. -/
theorem isolated_from_other_clients_crossed :
    without (fun position => position == 0 || position == 5) crossedRun =
      [.request "a" 100, .request "b" 50, .request "a" 70, .sweep 60000000101,
        .request "a" 10] ∧
    ((fresh 1).history (without (fun position => position == 0 || position == 5)
        crossedRun)).filter (fun entry => entry.1.isRequestOf "a") =
      [(.request "a" 100, .admitted true), (.request "a" 70, .admitted false),
        (.request "a" 10, .admitted true)] ∧
    ((fresh 1).after (without (fun position => position == 0 || position == 5)
        (crossedRun.take 4))).queues.lookup "a" = some [100] ∧
    ((fresh 1).after (without (fun position => position == 0 || position == 5)
        (crossedRun.take 5))).queues.lookup "a" = none := by
  have isolated := isolated_from_other_clients 1 crossedRun "a"
    (fun position => position == 0 || position == 5) (by
      intro position event isDeleted present
      simp only [Bool.or_eq_true, beq_iff_eq] at isDeleted
      rcases isDeleted with rfl | rfl
      · cases present
        exact ⟨"b", 5, rfl, by decide⟩
      · cases present
        exact ⟨"b", 60000000102, rfl, by decide⟩)
  exact ⟨by decide, isolated.1.trans (by decide), (isolated.2 4).2.trans (by decide),
    (isolated.2 5).2.trans (by decide)⟩

end Limiter
end Admission
end FlemishDesk
