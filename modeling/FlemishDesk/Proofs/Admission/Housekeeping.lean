import FlemishDesk.Proofs.Admission.Burst
import FlemishDesk.Proofs.Admission.Isolation
import Mathlib.Data.List.TakeWhile

/-!
# The table of a limiter

The table stays small.  A request never leaves an empty queue behind, not even when it
prunes the queue and is refused, and no queue outgrows the limit; both hold for times in
any order.  A sweep forgets a client exactly when nothing in its queue lies in the
window, and answers by how much the number of clients has decreased.  A sweep that no
earlier event postdates leaves exactly the clients that were admitted within the window,
however often they were pruned or swept before.
-/

namespace FlemishDesk
namespace Admission

/-- Something is left of a queue that holds a time in the window. -/
theorem prune_ne_nil_iff
    {now : Nat}
    {queue : List Nat} :
    prune now queue ≠ [] <-> ∃ time ∈ queue, inWindow now time = true := by
  simp only [prune, ne_eq, List.dropWhile_eq_nil_iff, decide_eq_true_eq, inWindow,
    not_forall, not_lt, exists_prop]

/-- An admitted time in the window of the moment is still queued. -/
theorem Covers.exists_inWindow_iff
    {moment : Nat}
    {admitted queue : List Nat}
    (covers : Covers moment admitted queue) :
    (∃ time ∈ admitted, inWindow moment time = true) <->
      ∃ time ∈ queue, inWindow moment time = true := by
  rw [← List.countP_pos_iff, ← List.countP_pos_iff, covers.countP_inWindow]

namespace Queues

/-! ## Entries of the table -/

theorem mem_of_lookup
    {queues : Queues}
    {client : String}
    {queue : List Nat}
    (found : queues.lookup client = some queue) :
    (client, queue) ∈ queues := by
  obtain ⟨before, after, split, _⟩ := List.lookup_eq_some_iff.mp found
  simp [split]

/-- Giving a client a queue brings no other entry into the table. -/
theorem eq_or_mem_of_mem_put
    {queues : Queues}
    {client : String}
    {queue : List Nat}
    {entry : String × List Nat}
    (present : entry ∈ queues.put client queue) :
    entry = (client, queue) ∨ entry ∈ queues := by
  induction queues with
  | nil => simpa [put] using present
  | cons first others inductionHypothesis =>
      rw [put] at present
      split at present
      · exact (List.mem_cons.mp present).imp_right (List.mem_cons_of_mem first)
      · rcases List.mem_cons.mp present with rfl | later
        · exact .inr List.mem_cons_self
        · exact (inductionHypothesis later).imp_right (List.mem_cons_of_mem first)

/-- An entry that a sweep leaves is what pruning left of an entry, and not empty. -/
theorem exists_of_mem_swept
    {queues : Queues}
    {now : Nat}
    {entry : String × List Nat}
    (present : entry ∈ queues.swept now) :
    entry.2 ≠ [] ∧ ∃ queue, (entry.1, queue) ∈ queues ∧ entry.2 = prune now queue := by
  obtain ⟨pruned, nonempty⟩ := List.mem_filter.mp present
  obtain ⟨⟨client, queue⟩, before, rfl⟩ := List.mem_map.mp pruned
  exact ⟨by simpa using nonempty, queue, before, rfl⟩

/-- Where no queue is empty, the clients that are tracked are those with a queued
time. -/
theorem mem_keys_iff_of_filled
    {queues : Queues}
    (distinct : queues.Distinct)
    (filled : ∀ entry ∈ queues, entry.2 ≠ [])
    (client : String) :
    client ∈ queues.map Prod.fst <-> queues.times client ≠ [] := by
  constructor
  · intro tracked
    obtain ⟨entry, present, rfl⟩ := List.mem_map.mp tracked
    rw [times_of_mem distinct present]
    exact filled entry present
  · intro queued
    by_contra untracked
    exact queued (by rw [times, lookup_of_not_mem untracked, Option.getD_none])

/-- A sweep leaves the clients with a queued time in the window. -/
theorem mem_keys_swept_iff
    {queues : Queues}
    (distinct : queues.Distinct)
    (now : Nat)
    (client : String) :
    client ∈ (queues.swept now).map Prod.fst <->
      ∃ time ∈ queues.times client, inWindow now time = true := by
  rw [mem_keys_iff_of_filled (distinct.swept now) fun _ present =>
    (exists_of_mem_swept present).1, times_swept distinct, prune_ne_nil_iff]

end Queues

namespace Limiter

/-! ## What an event keeps -/

/-- The table of a limiter in order: no client has two queues, no queue is empty, and
none holds more times than the limit. -/
structure Tidy (limiter : Limiter) : Prop where
  distinct : limiter.queues.Distinct
  filled : ∀ entry ∈ limiter.queues, entry.2 ≠ []
  bounded : ∀ entry ∈ limiter.queues, (entry.2.length : Int) ≤ limiter.limit

theorem tidy_fresh (limit : Int) : Tidy (fresh limit) where
  distinct := List.nodup_nil
  filled _ present := absurd present List.not_mem_nil
  bounded _ present := absurd present List.not_mem_nil

namespace Tidy

variable {limiter : Limiter}

/-- A client that is not tracked has an empty queue, which is within the limit as
well. -/
theorem length_times_le
    (tidy : Tidy limiter)
    (positive : 0 < limiter.limit)
    (client : String) :
    ((limiter.queues.times client).length : Int) ≤ limiter.limit := by
  rw [Queues.times]
  cases found : limiter.queues.lookup client with
  | none => exact Int.le_of_lt positive
  | some queue => exact tidy.bounded _ (Queues.mem_of_lookup found)

/-- A client can be given a queue that is neither empty nor too long. -/
theorem put
    (tidy : Tidy limiter)
    {queue : List Nat}
    (nonempty : queue ≠ [])
    (short : (queue.length : Int) ≤ limiter.limit)
    (client : String) :
    Tidy { limiter with queues := limiter.queues.put client queue } where
  distinct := tidy.distinct.put client queue
  filled entry present := by
    rcases Queues.eq_or_mem_of_mem_put present with rfl | before
    · exact nonempty
    · exact tidy.filled entry before
  bounded entry present := by
    rcases Queues.eq_or_mem_of_mem_put present with rfl | before
    · exact short
    · exact tidy.bounded entry before

/-- A request leaves the table in order.  It is refused only when what pruning left of
the queue is as long as the limit, and so not empty. -/
theorem allow
    (tidy : Tidy limiter)
    (positive : 0 < limiter.limit)
    (client : String)
    (now : Nat) :
    Tidy (limiter.allow client now).2 := by
  have shorter := length_prune_le now (limiter.queues.times client)
  have fits := tidy.length_times_le positive client
  rw [allow_of_positive positive]
  split
  · next room =>
      refine tidy.put (by simp) ?_ client
      rw [List.length_append, List.length_singleton]
      omega
  · next full =>
      refine tidy.put ?_ (by omega) client
      rw [← List.length_pos_iff]
      omega

/-- A sweep leaves the table in order. -/
theorem evict
    (tidy : Tidy limiter)
    (now : Nat) :
    Tidy (limiter.evict now) where
  distinct := tidy.distinct.swept now
  filled _ present := (Queues.exists_of_mem_swept present).1
  bounded entry present := by
    obtain ⟨_, queue, before, pruned⟩ := Queues.exists_of_mem_swept present
    have shorter := length_prune_le now queue
    have fits : (queue.length : Int) ≤ limiter.limit := tidy.bounded _ before
    rw [pruned]
    exact Int.le_trans (Int.ofNat_le.mpr shorter) fits

theorem step
    (tidy : Tidy limiter)
    (positive : 0 < limiter.limit)
    (event : Event) :
    Tidy (limiter.step event).2 := by
  cases event with
  | request client now => exact tidy.allow positive client now
  | sweep now => exact tidy.evict now

/-- A run leaves the table in order. -/
theorem after
    (tidy : Tidy limiter)
    (positive : 0 < limiter.limit)
    (events : List Event) :
    Tidy (limiter.after events) := by
  induction events generalizing limiter with
  | nil => exact tidy
  | cons event others inductionHypothesis =>
      exact inductionHypothesis (tidy.step positive event) (by rwa [limit_step])

end Tidy

/-! ## What a sweep leaves -/

theorem tracked_evict_le
    (limiter : Limiter)
    (now : Nat) :
    (limiter.evict now).tracked ≤ limiter.tracked := by
  have kept := (Queues.keys_swept_sublist now limiter.queues).length_le
  rwa [List.length_map, List.length_map] at kept

theorem after_append
    (limiter : Limiter)
    (events more : List Event) :
    limiter.after (events ++ more) = (limiter.after events).after more := by
  induction events generalizing limiter with
  | nil => rfl
  | cons event others inductionHypothesis => exact inductionHypothesis _

/-- A sweep that no earlier event postdates leaves the clients that were admitted within
the window. -/
theorem mem_keys_evict_after_iff
    {limit : Int}
    (positive : 0 < limit)
    {past : List Event}
    {now : Nat}
    (earlier : ∀ event ∈ past, event.time ≤ now)
    (client : String) :
    client ∈ (((fresh limit).after past).evict now).queues.map Prod.fst <->
      ∃ time ∈ admissions client ((fresh limit).history past), inWindow now time =
        true := by
  have tracks := (tracks_fresh positive client now).run positive past
    (touch_le_of_forall_time_le earlier)
  rw [List.nil_append] at tracks
  rw [tracks.covers.exists_inWindow_iff]
  exact Queues.mem_keys_swept_iff tracks.distinct now client

/-- With a positive limit, whatever the times of a run, every client that is tracked has
at least one and at most `limit` times in its only queue, and a sweep answers by how
much it decreases the number of tracked clients.  When the times never decrease, a sweep
leaves exactly the clients with a request that was admitted at most sixty seconds before
it. -/
theorem table_after_run
    (limit : Int)
    (positive : 0 < limit)
    (past : List Event) :
    (((fresh limit).after past).queues.map Prod.fst).Nodup ∧
    (∀ client queue, (client, queue) ∈ ((fresh limit).after past).queues ->
      1 ≤ queue.length ∧ (queue.length : Int) ≤ limit) ∧
    ∀ now,
      (∃ count,
        (((fresh limit).after past).step (.sweep now)).1 = .forgotten count ∧
        ((fresh limit).after (past ++ [.sweep now])).tracked + count =
          ((fresh limit).after past).tracked) ∧
      (Ordered (past ++ [.sweep now]) ->
        ∀ client,
          client ∈ ((fresh limit).after (past ++ [.sweep now])).queues.map Prod.fst <->
            ∃ time ∈ admissions client ((fresh limit).history past),
              time ≤ now ∧ now - time ≤ window) := by
  have tidy := (tidy_fresh limit).after positive past
  refine ⟨tidy.distinct, fun client queue present => ⟨?_, ?_⟩, fun now => ⟨?_, ?_⟩⟩
  · exact List.length_pos_iff.mpr (tidy.filled _ present)
  · have short := tidy.bounded _ present
    rwa [limit_after] at short
  · refine ⟨_, rfl, ?_⟩
    rw [after_append]
    exact Nat.add_sub_of_le (tracked_evict_le _ now)
  · intro ordered client
    obtain ⟨_, _, across⟩ := List.pairwise_append.mp ordered
    have earlier : ∀ event ∈ past, event.time ≤ now := fun event member =>
      across event member (.sweep now) List.mem_cons_self
    rw [after_append]
    refine (mem_keys_evict_after_iff positive earlier client).trans ?_
    refine exists_congr fun time => and_congr_right fun admitted => ?_
    have before : time ≤ now :=
      touch_le_of_forall_time_le earlier time (mem_touches_of_mem_admissions admitted)
    simp [inWindow, before]

/-- A client whose clock runs backwards and who is refused, and two clients fifty
seconds apart of whom a sweep forgets the earlier one. -/
theorem table_after_run_idle :
    ((fresh 1).after [.request "a" 90, .request "a" 10]).queues = [("a", [90])] ∧
    (1 ≤ [90].length ∧ ([90].length : Int) ≤ 1) ∧
    (((fresh 5).after [.request "old" 0, .request "recent" 50000000000]).step
        (.sweep 70000000000)).1 = .forgotten 1 ∧
    ("recent" ∈ ((fresh 5).after [.request "old" 0, .request "recent" 50000000000,
        .sweep 70000000000]).queues.map Prod.fst <->
      ∃ time ∈ admissions "recent" ((fresh 5).history
          [.request "old" 0, .request "recent" 50000000000]),
        time ≤ 70000000000 ∧ 70000000000 - time ≤ window) ∧
    "old" ∉ ((fresh 5).after [.request "old" 0, .request "recent" 50000000000,
        .sweep 70000000000]).queues.map Prod.fst := by
  have stored : ((fresh 1).after [.request "a" 90, .request "a" 10]).queues =
      [("a", [90])] := by
    decide
  have ordered : Ordered [.request "old" 0, .request "recent" 50000000000,
      .sweep 70000000000] := by
    unfold Ordered
    decide
  have backwards := (table_after_run 1 (by decide) [.request "a" 90, .request "a" 10]).2.1
    "a" [90] (by rw [stored]; exact List.mem_cons_self)
  have swept := ((table_after_run 5 (by decide)
    [.request "old" 0, .request "recent" 50000000000]).2.2 70000000000).2 ordered
  exact ⟨stored, backwards, by decide, swept "recent", fun tracked =>
    absurd ((swept "old").mp tracked) (by decide)⟩

end Limiter
end Admission
end FlemishDesk
