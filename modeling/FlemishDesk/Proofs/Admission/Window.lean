import FlemishDesk.Proofs.Admission.Queue

/-!
# Limiters as sliding windows

A limiter keeps only a pruned queue for every client and forgets whole clients in a
sweep.  Its decisions are nevertheless those of the full history: the queue of a client
is always an end of the list of all times at which the client was admitted, and the
beginning that is missing lies before the window.  This holds for times in any order and
bounds the admissions in the window of the furthest moment.  When times never decrease,
the queue is in order as well, and a request is admitted exactly when the history says
so.
-/

namespace FlemishDesk
namespace Admission

/-! ## Queues against histories -/

/-- The queue is an end of the list of admitted times, and the times before it lie
before the window of a moment. -/
def Covers (moment : Nat) (admitted queue : List Nat) : Prop :=
  ∃ dropped, admitted = dropped ++ queue ∧ ∀ time ∈ dropped, inWindow moment time = false

namespace Covers

theorem refl (moment : Nat) (queue : List Nat) :
    Covers moment queue queue :=
  ⟨[], rfl, by simp⟩

/-- What lies before the window lies before every later window. -/
theorem later
    {moment next : Nat}
    {admitted queue : List Nat}
    (covers : Covers moment admitted queue)
    (le : moment ≤ next) :
    Covers next admitted queue := by
  obtain ⟨dropped, split, outside⟩ := covers
  refine ⟨dropped, split, ?_⟩
  intro time present
  have before := outside time present
  simp only [inWindow, decide_eq_false_iff_not] at before ⊢
  omega

/-- Pruning at an earlier moment loses nothing that lies in the window. -/
theorem prune
    {moment : Nat}
    {admitted queue : List Nat}
    (covers : Covers moment admitted queue)
    {now : Nat}
    (le : now ≤ moment) :
    Covers moment admitted (Admission.prune now queue) := by
  obtain ⟨dropped, split, outside⟩ := covers
  obtain ⟨pruned, splitQueue, outsideNow⟩ := exists_eq_append_prune now queue
  refine ⟨dropped ++ pruned, ?_, ?_⟩
  · rw [List.append_assoc, ← splitQueue]
    exact split
  · intro time present
    rcases List.mem_append.mp present with inDropped | inPruned
    · exact outside time inDropped
    · have before := outsideNow time inPruned
      simp only [inWindow, decide_eq_false_iff_not] at before ⊢
      omega

/-- A time that is admitted goes to the ends of both lists. -/
theorem append
    {moment : Nat}
    {admitted queue : List Nat}
    (covers : Covers moment admitted queue)
    (more : List Nat) :
    Covers moment (admitted ++ more) (queue ++ more) := by
  obtain ⟨dropped, split, outside⟩ := covers
  exact ⟨dropped, by rw [split, List.append_assoc], outside⟩

/-- The window of the moment holds as many admitted times as queued ones. -/
theorem countP_inWindow
    {moment : Nat}
    {admitted queue : List Nat}
    (covers : Covers moment admitted queue) :
    admitted.countP (inWindow moment) = queue.countP (inWindow moment) := by
  obtain ⟨dropped, split, outside⟩ := covers
  have noneDropped : dropped.countP (inWindow moment) = 0 := by
    rw [List.countP_eq_zero]
    intro time present
    simp [outside time present]
  rw [split, List.countP_append, noneDropped, Nat.zero_add]

theorem sublist
    {moment : Nat}
    {admitted queue : List Nat}
    (covers : Covers moment admitted queue) :
    queue.Sublist admitted := by
  obtain ⟨dropped, split, _⟩ := covers
  rw [split]
  exact List.sublist_append_right dropped queue

end Covers

namespace Limiter

/-! ## Histories -/

/-- The moment of an event. -/
def Event.time : Event -> Nat
  | .request _ now => now
  | .sweep now => now

/-- The event is a request of a client. -/
def Event.isRequestOf (client : String) : Event -> Bool
  | .request other _ => other == client
  | .sweep _ => false

/-- The moment at which an event prunes the queue of a client, if it does. -/
def Event.touch? (client : String) : Event -> Option Nat
  | .request other now => if other = client then some now else none
  | .sweep now => some now

/-- The time at which an event with its answer admitted a client, if it did. -/
def admission? (client : String) : Event × Answer -> Option Nat
  | (.request other now, .admitted true) => if other = client then some now else none
  | _ => none

/-- The events of a run, each with the answer that it got. -/
def history (limiter : Limiter) (events : List Event) : List (Event × Answer) :=
  events.zip ((limiter.run events).map Prod.fst)

/-- The times at which a client was admitted, in the order of the run. -/
def admissions (client : String) (past : List (Event × Answer)) : List Nat :=
  past.filterMap (admission? client)

/-- The limiter after a run. -/
def after (limiter : Limiter) : List Event -> Limiter
  | [] => limiter
  | event :: others => (limiter.step event).2.after others

@[simp] theorem history_nil (limiter : Limiter) : limiter.history [] = [] := rfl

@[simp] theorem history_cons
    (limiter : Limiter)
    (event : Event)
    (others : List Event) :
    limiter.history (event :: others) =
      (event, (limiter.step event).1) :: (limiter.step event).2.history others := rfl

/-- The beginning of a history is the history of the beginning. -/
theorem take_history
    (limiter : Limiter)
    (events : List Event)
    (count : Nat) :
    (limiter.history events).take count = limiter.history (events.take count) := by
  induction events generalizing limiter count with
  | nil => simp
  | cons event others inductionHypothesis =>
      cases count with
      | zero => rfl
      | succ count => simp [inductionHypothesis]

/-- An event is answered by the limiter as the events before it have left it. -/
theorem getElem?_history
    (limiter : Limiter)
    (events : List Event)
    (index : Nat) :
    (limiter.history events)[index]? =
      events[index]?.map fun event =>
        (event, ((limiter.after (events.take index)).step event).1) := by
  induction events generalizing limiter index with
  | nil => rfl
  | cons event others inductionHypothesis =>
      cases index with
      | zero => rfl
      | succ index =>
          rw [history_cons, List.getElem?_cons_succ, List.getElem?_cons_succ,
            inductionHypothesis, List.take_succ_cons, after]

@[simp] theorem admissions_nil (client : String) : admissions client [] = [] := rfl

theorem admissions_cons
    (client : String)
    (entry : Event × Answer)
    (past : List (Event × Answer)) :
    admissions client (entry :: past) =
      (admission? client entry).toList ++ admissions client past := by
  cases admitted : admission? client entry <;> simp [admissions, admitted]

/-- An event prunes the queue of a client at its own moment. -/
theorem Event.time_of_touch?
    {client : String}
    {event : Event}
    {time : Nat}
    (touches : event.touch? client = some time) :
    event.time = time := by
  cases event with
  | request other now =>
      by_cases same : other = client
      · simpa [touch?, Event.time, same] using touches
      · simp [touch?, same] at touches
  | sweep now => simpa [touch?, Event.time] using touches

/-- A client is admitted when its queue is pruned. -/
theorem touch?_of_admission?
    {client : String}
    {event : Event}
    {answer : Answer}
    {time : Nat}
    (admitted : admission? client (event, answer) = some time) :
    event.touch? client = some time := by
  cases event with
  | sweep now => simp [admission?] at admitted
  | request other now =>
      cases answer with
      | forgotten count => simp [admission?] at admitted
      | admitted allowed =>
          cases allowed with
          | false => simp [admission?] at admitted
          | true => simpa [admission?, Event.touch?] using admitted

/-- Only a request of the client admits it. -/
theorem admission?_of_not_isRequestOf
    {client : String}
    {event : Event}
    (foreign : event.isRequestOf client = false)
    (answer : Answer) :
    admission? client (event, answer) = none := by
  cases event with
  | sweep now => rfl
  | request other now =>
      have different : other ≠ client := by simpa [Event.isRequestOf] using foreign
      cases answer with
      | forgotten count => rfl
      | admitted allowed => cases allowed <;> simp [admission?, different]

/-- A client is admitted in the order of the events. -/
theorem admissions_sublist
    (client : String)
    (limiter : Limiter)
    (events : List Event) :
    (admissions client (limiter.history events)).Sublist (events.map Event.time) := by
  induction events generalizing limiter with
  | nil => simp
  | cons event others inductionHypothesis =>
      rw [history_cons, admissions_cons, List.map_cons]
      cases admitted : admission? client (event, (limiter.step event).1) with
      | none => exact (inductionHypothesis _).cons _
      | some time =>
          rw [Event.time_of_touch? (touch?_of_admission? admitted)]
          exact (inductionHypothesis _).cons_cons time

/-- A client is admitted only at moments at which its queue is pruned. -/
theorem mem_touches_of_mem_admissions
    {client : String}
    {limiter : Limiter}
    {events : List Event}
    {time : Nat}
    (present : time ∈ admissions client (limiter.history events)) :
    time ∈ events.filterMap (Event.touch? client) := by
  induction events generalizing limiter with
  | nil => simp at present
  | cons event others inductionHypothesis =>
      rw [history_cons, admissions_cons, List.mem_append, Option.mem_toList] at present
      rcases present with now | later
      · exact List.mem_filterMap.mpr
          ⟨event, List.mem_cons_self, touch?_of_admission? now⟩
      · obtain ⟨other, member, touches⟩ :=
          List.mem_filterMap.mp (inductionHypothesis later)
        exact List.mem_filterMap.mpr ⟨other, List.mem_cons_of_mem event member, touches⟩

/-- A queue is pruned at no later moment than the last event. -/
theorem touch_le_of_forall_time_le
    {client : String}
    {events : List Event}
    {moment : Nat}
    (earlier : ∀ event ∈ events, event.time ≤ moment) :
    ∀ time ∈ events.filterMap (Event.touch? client), time ≤ moment := by
  intro time present
  obtain ⟨event, member, touched⟩ := List.mem_filterMap.mp present
  rw [← Event.time_of_touch? touched]
  exact earlier event member

/-! ## What a step keeps -/

/-- The state of a limiter agrees with the times at which a client was admitted, as far
as the window of a moment tells. -/
structure Tracks (limiter : Limiter) (client : String) (moment : Nat)
    (admitted : List Nat) :
    Prop where
  /-- No client has two queues. -/
  distinct : limiter.queues.Distinct
  /-- The queue of the client is an end of the admitted times. -/
  covers : Covers moment admitted (limiter.queues.times client)
  /-- The queue holds no more times than the limit. -/
  bounded : ((limiter.queues.times client).length : Int) ≤ limiter.limit

@[simp] theorem limit_step
    (limiter : Limiter)
    (event : Event) :
    (limiter.step event).2.limit = limiter.limit := by
  cases event with
  | request client now =>
      simp only [step, allow]
      split
      · split <;> rfl
      · rfl
  | sweep now => rfl

@[simp] theorem limit_after
    (limiter : Limiter)
    (events : List Event) :
    (limiter.after events).limit = limiter.limit := by
  induction events generalizing limiter with
  | nil => rfl
  | cons event others inductionHypothesis =>
      rw [after, inductionHypothesis, limit_step]

/-- A fresh limiter agrees with the empty history. -/
theorem tracks_fresh
    {limit : Int}
    (positive : 0 < limit)
    (client : String)
    (moment : Nat) :
    Tracks (fresh limit) client moment [] where
  distinct := List.nodup_nil
  covers := Covers.refl moment []
  bounded := by simpa [fresh] using Int.le_of_lt positive

/-- What a limiter that limits does with a request: the queue of the client is pruned,
and the request joins it when there is room. -/
theorem allow_of_positive
    {limiter : Limiter}
    (positive : 0 < limiter.limit)
    (client : String)
    (now : Nat) :
    limiter.allow client now =
      if ((prune now (limiter.queues.times client)).length : Int) < limiter.limit then
        (true, { limiter with
          queues :=
            limiter.queues.put client (prune now (limiter.queues.times client) ++ [now])
            })
      else
        (false, { limiter with
          queues :=
            limiter.queues.put client (prune now (limiter.queues.times client)) }) := by
  have enabled : limiter.isEnabled = true := by simpa [isEnabled] using positive
  by_cases room : ((prune now (limiter.queues.times client)).length : Int) < limiter.limit
  · have notFull : ¬limiter.limit ≤
        ((prune now (limiter.queues.times client)).length : Int) := by
      omega
    simp [allow, enabled, room, notFull]
  · have full : limiter.limit ≤
        ((prune now (limiter.queues.times client)).length : Int) := by
      omega
    simp [allow, enabled, room, full]

namespace Tracks

variable {limiter : Limiter} {client : String} {moment : Nat} {admitted : List Nat}

theorem later
    (tracks : Tracks limiter client moment admitted)
    {next : Nat}
    (le : moment ≤ next) :
    Tracks limiter client next admitted :=
  ⟨tracks.distinct, tracks.covers.later le, tracks.bounded⟩

/-- A request of the client at an earlier moment keeps the agreement. -/
theorem requestOwn
    (tracks : Tracks limiter client moment admitted)
    (positive : 0 < limiter.limit)
    {now : Nat}
    (le : now ≤ moment) :
    Tracks (limiter.allow client now).2 client moment
      (admitted ++ if (limiter.allow client now).1 then [now] else []) := by
  have pruned := tracks.covers.prune le
  rw [allow_of_positive positive]
  split
  · next room =>
      refine ⟨tracks.distinct.put client _, ?_, ?_⟩
      · simpa using pruned.append [now]
      · simp only [Queues.times_put, if_true, List.length_append, List.length_singleton]
        omega
  · refine ⟨tracks.distinct.put client _, ?_, ?_⟩
    · simpa using pruned
    · have shorter := length_prune_le now (limiter.queues.times client)
      have bounded := tracks.bounded
      simp only [Queues.times_put, if_true]
      omega

/-- A request of another client keeps the agreement. -/
theorem requestOther
    (tracks : Tracks limiter client moment admitted)
    (positive : 0 < limiter.limit)
    {other : String}
    (different : client ≠ other)
    (now : Nat) :
    Tracks (limiter.allow other now).2 client moment admitted := by
  rw [allow_of_positive positive]
  split
  all_goals
    exact ⟨tracks.distinct.put other _, by simpa [different] using tracks.covers,
      by simpa [different] using tracks.bounded⟩

/-- A sweep at an earlier moment keeps the agreement. -/
theorem sweep
    (tracks : Tracks limiter client moment admitted)
    {now : Nat}
    (le : now ≤ moment) :
    Tracks (limiter.evict now) client moment admitted := by
  have pruned : (limiter.evict now).queues.times client =
      prune now (limiter.queues.times client) :=
    Queues.times_swept tracks.distinct now client
  refine ⟨tracks.distinct.swept now, ?_, ?_⟩
  · rw [pruned]
    exact tracks.covers.prune le
  · have shorter := length_prune_le now (limiter.queues.times client)
    have bounded := tracks.bounded
    rw [pruned]
    exact Int.le_trans (Int.ofNat_le.mpr shorter) bounded

/-- An event keeps the agreement, provided that it prunes the queue of the client at no
later moment than the one in question. -/
theorem step
    (tracks : Tracks limiter client moment admitted)
    (positive : 0 < limiter.limit)
    (event : Event)
    (touches : ∀ now ∈ event.touch? client, now ≤ moment) :
    Tracks (limiter.step event).2 client moment
      (admitted ++ (admission? client (event, (limiter.step event).1)).toList) := by
  cases event with
  | request other now =>
      by_cases same : other = client
      · subst same
        have kept := tracks.requestOwn positive (touches now (by simp [Event.touch?]))
        cases allowed : (limiter.allow other now).1 <;>
          simpa [Limiter.step, admission?, allowed] using kept
      · have kept := tracks.requestOther positive (Ne.symm same) now
        cases allowed : (limiter.allow other now).1 <;>
          simpa [Limiter.step, admission?, same, allowed] using kept
  | sweep now =>
      have kept := tracks.sweep (touches now (by simp [Event.touch?]))
      simpa [Limiter.step, admission?] using kept

/-- A run keeps the agreement. -/
theorem run
    (tracks : Tracks limiter client moment admitted)
    (positive : 0 < limiter.limit)
    (events : List Event)
    (touches : ∀ now ∈ events.filterMap (Event.touch? client), now ≤ moment) :
    Tracks (limiter.after events) client moment
      (admitted ++ admissions client (limiter.history events)) := by
  induction events generalizing limiter admitted with
  | nil => simpa [after] using tracks
  | cons event others inductionHypothesis =>
      have stepped := tracks.step positive event fun now touched =>
        touches now (List.mem_filterMap.mpr ⟨event, List.mem_cons_self, touched⟩)
      have rest :=
        inductionHypothesis stepped (by simpa using positive) fun now present => by
        obtain ⟨other, member, touched⟩ := List.mem_filterMap.mp present
        exact touches now
          (List.mem_filterMap.mpr ⟨other, List.mem_cons_of_mem event member, touched⟩)
      rw [history_cons, admissions_cons, ← List.append_assoc]
      exact rest

/-- The window of the moment holds no more admissions than the limit. -/
theorem countP_le
    (tracks : Tracks limiter client moment admitted) :
    (admitted.countP (inWindow moment) : Int) ≤ limiter.limit := by
  have fewer : admitted.countP (inWindow moment) ≤
      (limiter.queues.times client).length := by
    rw [tracks.covers.countP_inWindow]
    exact List.countP_le_length
  exact Int.le_trans (Int.ofNat_le.mpr fewer) tracks.bounded

/-- When the admitted times are in order, a request is admitted exactly when the window
holds fewer admissions than the limit. -/
theorem allow_fst
    (tracks : Tracks limiter client moment admitted)
    (positive : 0 < limiter.limit)
    (sorted : admitted.Pairwise (· ≤ ·)) :
    (limiter.allow client moment).1 =
      decide ((admitted.countP (inWindow moment) : Int) < limiter.limit) := by
  have counted : (prune moment (limiter.queues.times client)).length =
      admitted.countP (inWindow moment) := by
    rw [tracks.covers.countP_inWindow]
    exact length_prune_of_sorted moment _ (sorted.sublist tracks.covers.sublist)
  rw [allow_of_positive positive, counted]
  split
  · next room => simp [room]
  · next full => simp [full]

end Tracks

/-! ## Times in any order -/

/-- Whatever the order of the times, the window that ends at the latest moment at which
the queue of a client was pruned holds no more admissions of the client than the
limit. -/
theorem admissions_in_latest_window_le
    (limit : Int)
    (positive : 0 < limit)
    (events : List Event)
    (client : String)
    (latest : Nat)
    (isLatest : (events.filterMap (Event.touch? client)).max? = some latest) :
    (∀ time ∈ admissions client ((fresh limit).history events), time ≤ latest) ∧
      ((admissions client ((fresh limit).history events)).countP
        (fun time => latest - time ≤ window) : Int) ≤ limit := by
  have touches : ∀ now ∈ events.filterMap (Event.touch? client), now ≤ latest :=
    (List.max?_eq_some_iff.mp isLatest).2
  have tracks := (tracks_fresh positive client latest).run positive events touches
  refine ⟨fun time present => touches time (mem_touches_of_mem_admissions present), ?_⟩
  have bounded := tracks.countP_le
  rw [limit_after] at bounded
  exact bounded

/-- With a limit of one, times that run backwards and a sweep in between: the second
request is refused although it is stamped earlier, and the third comes a nanosecond
after the window of the first. -/
theorem admissions_in_latest_window_le_backwards :
    admissions "a" ((fresh 1).history
        [.request "a" 90, .request "a" 10, .sweep 60000000090,
          .request "a" 60000000091]) =
      [90, 60000000091] ∧
    ([90, 60000000091].countP (fun time => 60000000091 - time ≤ window) : Int) ≤ 1 := by
  have bounded := (admissions_in_latest_window_le 1 (by decide)
    [.request "a" 90, .request "a" 10, .sweep 60000000090, .request "a" 60000000091] "a"
    60000000091 (by decide)).2
  have admitted : admissions "a" ((fresh 1).history
      [.request "a" 90, .request "a" 10, .sweep 60000000090, .request "a" 60000000091]) =
      [90, 60000000091] := by decide
  rw [admitted] at bounded
  exact ⟨admitted, bounded⟩

/-! ## Times in order -/

/-- The events come in order of time. -/
def Ordered (events : List Event) : Prop :=
  events.Pairwise fun first second => first.time ≤ second.time

/-- Admitted times in order, none of them after a moment. -/
structure SortedUpTo (moment : Nat) (admitted : List Nat) : Prop where
  /-- The times are in order. -/
  sorted : admitted.Pairwise (· ≤ ·)
  /-- No time lies after the moment. -/
  past : ∀ time ∈ admitted, time ≤ moment

namespace SortedUpTo

variable {moment : Nat} {admitted : List Nat}

theorem later
    (sortedUpTo : SortedUpTo moment admitted)
    {next : Nat}
    (le : moment ≤ next) :
    SortedUpTo next admitted :=
  ⟨sortedUpTo.sorted, fun time present => Nat.le_trans (sortedUpTo.past time present) le⟩

/-- An event that admits a client at the moment adds the latest time. -/
theorem append_admission
    {event : Event}
    (sortedUpTo : SortedUpTo event.time admitted)
    (client : String)
    (answer : Answer) :
    SortedUpTo event.time (admitted ++ (admission? client (event, answer)).toList) := by
  cases joins : admission? client (event, answer) with
  | none => simpa using sortedUpTo
  | some time =>
      have now : event.time = time := Event.time_of_touch? (touch?_of_admission? joins)
      refine ⟨List.pairwise_append.mpr ⟨sortedUpTo.sorted, by simp, ?_⟩, ?_⟩
      · intro first before second present
        rw [Option.toList_some, List.mem_singleton] at present
        rw [present, ← now]
        exact sortedUpTo.past first before
      · intro other present
        rcases List.mem_append.mp present with before | joined
        · exact sortedUpTo.past other before
        · rw [Option.toList_some, List.mem_singleton] at joined
          exact Nat.le_of_eq (joined.trans now.symm)

end SortedUpTo

/-- A request of a client is answered by the admissions in its window. -/
theorem Tracks.step_fst
    {limiter : Limiter}
    {client : String}
    {event : Event}
    {admitted : List Nat}
    (tracks : Tracks limiter client event.time admitted)
    (positive : 0 < limiter.limit)
    (sorted : admitted.Pairwise (· ≤ ·))
    (own : event.isRequestOf client = true) :
    (limiter.step event).1 =
      .admitted
        (decide ((admitted.countP (inWindow event.time) : Int) < limiter.limit)) := by
  cases event with
  | sweep now => simp [Event.isRequestOf] at own
  | request other now =>
      have same : other = client := by simpa [Event.isRequestOf] using own
      subst same
      rw [← tracks.allow_fst positive sorted]
      rfl

/-- After events that come in order, a request at a later moment is answered by the
history. -/
theorem step_request_of_ordered
    {limit : Int}
    (positive : 0 < limit)
    {past : List Event}
    (ordered : Ordered past)
    {now : Nat}
    (earlier : ∀ event ∈ past, event.time ≤ now)
    (client : String) :
    (((fresh limit).after past).step (.request client now)).1 =
      .admitted (decide
        (((admissions client ((fresh limit).history past)).countP (inWindow now) : Int) <
          limit)) := by
  have tracks : Tracks ((fresh limit).after past) client (Event.request client now).time
      (admissions client ((fresh limit).history past)) :=
    (tracks_fresh positive client now).run positive past
      (touch_le_of_forall_time_le earlier)
  have sorted : (admissions client ((fresh limit).history past)).Pairwise (· ≤ ·) :=
    (List.pairwise_map.mpr ordered).sublist (admissions_sublist client _ past)
  have answer := tracks.step_fst (by rw [limit_after]; exact positive) sorted
    (by simp [Event.isRequestOf])
  rw [limit_after] at answer
  exact answer

/-- Two limiters that agree with one history of a client give its requests the same
answers, whatever else the first of them has to do in between. -/
theorem filter_history_of_tracks
    {limiter alone : Limiter}
    {client : String}
    {moment : Nat}
    {admitted : List Nat}
    (tracks : Tracks limiter client moment admitted)
    (tracksAlone : Tracks alone client moment admitted)
    (positive : 0 < limiter.limit)
    (sameLimit : alone.limit = limiter.limit)
    (sortedUpTo : SortedUpTo moment admitted)
    (events : List Event)
    (ordered : Ordered events)
    (future : ∀ event ∈ events, moment ≤ event.time) :
    (limiter.history events).filter (fun entry => entry.1.isRequestOf client) =
      alone.history (events.filter (Event.isRequestOf client)) := by
  induction events generalizing limiter alone moment admitted with
  | nil => rfl
  | cons event others inductionHypothesis =>
      obtain ⟨first, rest⟩ := List.pairwise_cons.mp ordered
      have now : moment ≤ event.time := future event List.mem_cons_self
      have touches : ∀ time ∈ event.touch? client, time ≤ event.time :=
        fun time touched =>
        Nat.le_of_eq (Event.time_of_touch? touched).symm
      have positiveAlone : 0 < alone.limit := by
        rw [sameLimit]
        exact positive
      have stepped := (tracks.later now).step positive event touches
      rw [history_cons]
      cases own : event.isRequestOf client with
      | false =>
          rw [admission?_of_not_isRequestOf own, Option.toList_none,
            List.append_nil] at stepped
          simp only [own, List.filter_cons, Bool.false_eq_true, if_false]
          exact inductionHypothesis stepped (tracksAlone.later now)
            (by simpa using positive)
            (by simpa using sameLimit) (sortedUpTo.later now) rest first
      | true =>
          have answers : (alone.step event).1 = (limiter.step event).1 := by
            rw [(tracks.later now).step_fst positive sortedUpTo.sorted own,
              (tracksAlone.later now).step_fst positiveAlone sortedUpTo.sorted own,
              sameLimit]
          have steppedAlone := (tracksAlone.later now).step positiveAlone event touches
          rw [answers] at steppedAlone
          simp only [own, List.filter_cons, if_true, history_cons, answers]
          rw [inductionHypothesis stepped steppedAlone (by simpa using positive)
            (by simpa using sameLimit) ((sortedUpTo.later now).append_admission client _)
            rest first]

/-- What a limiter without a positive limit answers. -/
def unlimitedAnswer : Event -> Answer
  | .request _ _ => .admitted true
  | .sweep _ => .forgotten 0

/-- A limiter without a positive limit that tracks no client never changes. -/
theorem run_of_not_positive
    {limiter : Limiter}
    (notPositive : limiter.limit ≤ 0)
    (untracked : limiter.queues = [])
    (events : List Event) :
    limiter.run events = events.map fun event => (unlimitedAnswer event, limiter) := by
  have disabled : limiter.isEnabled = false := by
    simpa [isEnabled] using notPositive
  have stays (event : Event) : limiter.step event = (unlimitedAnswer event, limiter) := by
    cases event with
    | request client now => simp [step, allow, disabled, unlimitedAnswer]
    | sweep now =>
        have unchanged : limiter.evict now = limiter := by
          obtain ⟨limit, queues⟩ := limiter
          subst untracked
          rfl
        simp [step, unlimitedAnswer, unchanged]
  induction events with
  | nil => rfl
  | cons event others inductionHypothesis =>
      rw [run_cons, stays, inductionHypothesis, List.map_cons]

/-- With a positive limit and times that never decrease, a request is admitted exactly
when fewer than `limit` requests of its client were admitted in the sixty seconds up to
it, and the requests of a client are answered as if nothing else had happened.  Without
a positive limit every request is admitted and no client is tracked. -/
theorem history_eq_sliding_window
    (limit : Int)
    (events : List Event) :
    (0 < limit -> Ordered events ->
      (∀ (index : Nat) client now, events[index]? = some (.request client now) ->
        ((fresh limit).history events)[index]? =
          some (.request client now, .admitted (decide
            (((admissions client (((fresh limit).history events).take index)).countP
              (fun time => now - time ≤ window) : Int) < limit)))) ∧
      ∀ client,
        ((fresh limit).history events).filter (fun entry => entry.1.isRequestOf client) =
          (fresh limit).history (events.filter (Event.isRequestOf client))) ∧
    (limit ≤ 0 ->
      (∀ (index : Nat) client now, events[index]? = some (.request client now) ->
        ((fresh limit).history events)[index]? =
          some (.request client now, .admitted true)) ∧
      ∀ entry ∈ (fresh limit).run events, entry.2.tracked = 0) := by
  refine ⟨fun positive ordered => ⟨?_, ?_⟩, fun notPositive => ⟨?_, ?_⟩⟩
  · intro index client now present
    have split : events = events.take index ++ events.drop index :=
      (List.take_append_drop index events).symm
    have later : .request client now ∈ events.drop index := by
      refine List.mem_of_getElem? (i := 0) ?_
      rw [List.getElem?_drop, Nat.add_zero]
      exact present
    obtain ⟨orderedBefore, _, across⟩ := List.pairwise_append.mp (split ▸ ordered)
    have earlier : ∀ event ∈ events.take index, event.time ≤ now := fun event member =>
      across event member _ later
    rw [getElem?_history, present, take_history, Option.map_some,
      step_request_of_ordered positive orderedBefore earlier client]
    rfl
  · intro client
    exact filter_history_of_tracks (tracks_fresh positive client 0)
      (tracks_fresh positive client 0) positive rfl ⟨List.Pairwise.nil, by simp⟩ events
        ordered
      (fun _ _ => Nat.zero_le _)
  · intro index client now present
    rw [history, run_of_not_positive notPositive rfl, List.map_map,
      List.getElem?_zip_eq_some]
    exact ⟨present, by rw [List.getElem?_map, present]; rfl⟩
  · rw [run_of_not_positive notPositive rfl]
    intro entry present
    obtain ⟨event, _, rfl⟩ := List.mem_map.mp present
    rfl

/-- With a limit of one, a request exactly sixty seconds after an admitted one is
refused and one a nanosecond later is admitted, another client and a sweep
notwithstanding.  With a limit of zero both are admitted. -/
theorem history_eq_sliding_window_boundary :
    ((fresh 1).history
        [.request "a" 0, .request "b" 5, .sweep 9, .request "a" 60000000000,
          .request "a" 60000000001])[3]? =
      some (.request "a" 60000000000, .admitted false) ∧
    ((fresh 1).history
        [.request "a" 0, .request "b" 5, .sweep 9, .request "a" 60000000000,
          .request "a" 60000000001])[4]? =
      some (.request "a" 60000000001, .admitted true) ∧
    ((fresh 0).history [.request "a" 0, .request "a" 0])[1]? =
      some (.request "a" 0, .admitted true) := by
  have ordered : Ordered
      [.request "a" 0, .request "b" 5, .sweep 9, .request "a" 60000000000,
        .request "a" 60000000001] := by
    unfold Ordered
    decide
  obtain ⟨law, _⟩ := (history_eq_sliding_window 1
    [.request "a" 0, .request "b" 5, .sweep 9, .request "a" 60000000000,
      .request "a" 60000000001]).1 (by decide) ordered
  obtain ⟨unlimited, _⟩ := (history_eq_sliding_window 0
    [.request "a" 0, .request "a" 0]).2 (by decide)
  exact ⟨(law 3 "a" 60000000000 rfl).trans (by decide),
    (law 4 "a" 60000000001 rfl).trans (by decide), unlimited 1 "a" 0 rfl⟩

end Limiter
end Admission
end FlemishDesk
