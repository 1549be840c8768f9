import FlemishDesk.Proofs.Admission.Window
import Mathlib.Data.Finset.Card

/-!
# Limiters within one window

Between requests that all fall into one window nothing is pruned, in whatever order
their times come.  The queue of a client then holds the times of its first requests, up
to the limit, and a request is admitted exactly when fewer than `limit` requests of its
client came before, whether these were admitted or not.  Every client that made a
request is tracked, and a sweep forgets none of them.
-/

namespace FlemishDesk
namespace Admission

/-- No two of the times lie further apart than the length of the window. -/
def OneWindow (times : List Nat) : Prop :=
  ∀ early ∈ times, ∀ late ∈ times, late - early ≤ window

instance : DecidablePred OneWindow := fun times =>
  inferInstanceAs (Decidable (∀ early ∈ times, ∀ late ∈ times, late - early ≤ window))

theorem OneWindow.mono
    {times others : List Nat}
    (oneWindow : OneWindow times)
    (subset : others ⊆ times) :
    OneWindow others :=
  fun early isEarly late isLate => oneWindow early (subset isEarly) late (subset isLate)

/-- The times at which a client makes its requests, out of the requests of all
clients. -/
def timesOf (client : String) (requests : List (String × Nat)) : List Nat :=
  (requests.filter fun request => request.1 == client).map Prod.snd

theorem timesOf_concat
    (client other : String)
    (requests : List (String × Nat))
    (now : Nat) :
    timesOf client (requests ++ [(other, now)]) =
      timesOf client requests ++ if other = client then [now] else [] := by
  by_cases same : other = client <;> simp [timesOf, same]

theorem length_timesOf
    (client : String)
    (requests : List (String × Nat)) :
    (timesOf client requests).length = (requests.map Prod.fst).count client := by
  rw [timesOf, List.length_map, List.count, List.countP_map, List.countP_eq_length_filter]
  rfl

theorem timesOf_subset
    (client : String)
    (requests : List (String × Nat)) :
    timesOf client requests ⊆ requests.map Prod.snd :=
  List.map_subset _ (List.filter_subset_self _)

/-- A queue of which nothing lies before the window is not pruned. -/
theorem prune_of_forall_le
    {now : Nat}
    {queue : List Nat}
    (recent : ∀ time ∈ queue, now - time ≤ window) :
    prune now queue = queue := by
  cases queue with
  | nil => rfl
  | cons first others =>
      have inside : ¬ now - first > window :=
        Nat.not_lt.mpr (recent first List.mem_cons_self)
      rw [prune, List.dropWhile_cons_of_neg (by simpa using inside)]

/-- A client that is tracked has the queue of its entry. -/
theorem Queues.times_of_mem
    {queues : Queues}
    (distinct : queues.Distinct)
    {entry : String × List Nat}
    (present : entry ∈ queues) :
    queues.times entry.1 = entry.2 := by
  induction queues with
  | nil => cases present
  | cons first others inductionHypothesis =>
      obtain ⟨absent, rest⟩ := List.nodup_cons.mp distinct
      rw [times_cons]
      rcases List.mem_cons.mp present with rfl | among
      · rw [if_pos rfl]
      · have different : entry.1 ≠ first.1 := by
          intro same
          exact absent (same ▸ List.mem_map_of_mem among)
        rw [if_neg different, inductionHypothesis rest among]

namespace Limiter

/-- The state of a limiter after requests within one window. -/
structure Charged (limiter : Limiter) (requests : List (String × Nat)) : Prop where
  /-- No client has two queues. -/
  distinct : limiter.queues.Distinct
  /-- The queue of a client holds its first requests, up to the limit. -/
  queued : ∀ client, limiter.queues.times client =
    (timesOf client requests).take limiter.limit.toNat
  /-- The clients that made requests are tracked, and no others. -/
  known : ∀ client, client ∈ limiter.queues.map Prod.fst <->
    client ∈ requests.map Prod.fst

theorem charged_fresh (limit : Int) : Charged (fresh limit) [] where
  distinct := List.nodup_nil
  queued _ := List.take_nil.symm
  known _ := Iff.rfl

namespace Charged

variable {limiter : Limiter} {requests : List (String × Nat)}

/-- Nothing that is queued lies before the window of another moment of the burst. -/
theorem prune_times
    (charged : Charged limiter requests)
    {now : Nat}
    (oneWindow : OneWindow (now :: requests.map Prod.snd))
    (client : String) :
    prune now (limiter.queues.times client) = limiter.queues.times client := by
  refine prune_of_forall_le fun time present => ?_
  rw [charged.queued] at present
  have requested := timesOf_subset client requests (List.mem_of_mem_take present)
  exact oneWindow time (List.mem_cons_of_mem now requested) now List.mem_cons_self

/-- A request is admitted exactly when its client made fewer requests than the limit. -/
theorem allow_fst
    (charged : Charged limiter requests)
    (positive : 0 < limiter.limit)
    (client : String)
    {now : Nat}
    (oneWindow : OneWindow (now :: requests.map Prod.snd)) :
    (limiter.allow client now).1 =
      decide (((requests.map Prod.fst).count client : Int) < limiter.limit) := by
  have length : ((limiter.queues.times client).length : Int) < limiter.limit <->
      ((requests.map Prod.fst).count client : Int) < limiter.limit := by
    rw [charged.queued, List.length_take, length_timesOf]
    omega
  rw [allow_of_positive positive, charged.prune_times oneWindow, apply_ite Prod.fst]
  by_cases room : ((requests.map Prod.fst).count client : Int) < limiter.limit
  · rw [if_pos (length.mpr room)]
    simp [room]
  · rw [if_neg (room ∘ length.mp)]
    simp [room]

/-- A request charges its client, whether it is admitted or not. -/
theorem allow_snd
    (charged : Charged limiter requests)
    (positive : 0 < limiter.limit)
    (client : String)
    {now : Nat}
    (oneWindow : OneWindow (now :: requests.map Prod.snd)) :
    Charged (limiter.allow client now).2 (requests ++ [(client, now)]) := by
  have put : (limiter.allow client now).2 = { limiter with
      queues := limiter.queues.put client
        ((timesOf client requests ++ [now]).take limiter.limit.toNat) } := by
    rw [allow_of_positive positive, charged.prune_times oneWindow, charged.queued]
    split
    · next room =>
        -- The queue is not full yet, so that it holds all of the earlier requests.
        rw [List.length_take] at room
        rw [List.take_of_length_le (by omega), List.take_of_length_le (by simp; omega)]
    · next full =>
        rw [List.length_take] at full
        rw [List.take_append_of_le_length (by omega)]
  rw [put]
  refine ⟨charged.distinct.put client _, ?_, ?_⟩
  · intro other
    rw [Queues.times_put, timesOf_concat]
    by_cases same : other = client
    · rw [if_pos same, same, if_pos rfl]
    · rw [if_neg same, if_neg (Ne.symm same), List.append_nil, charged.queued]
  · intro other
    rw [Queues.mem_keys_put, charged.known]
    simp [or_comm]

/-- As many clients are tracked as there are among the requests. -/
theorem tracked_eq
    (charged : Charged limiter requests) :
    limiter.tracked = (requests.map Prod.fst).toFinset.card := by
  have same : (limiter.queues.map Prod.fst).toFinset =
      (requests.map Prod.fst).toFinset := by
    ext client
    rw [List.mem_toFinset, List.mem_toFinset, charged.known]
  rw [← same, List.toFinset_card_of_nodup charged.distinct, List.length_map, tracked]

/-- A sweep within the window forgets nobody. -/
theorem evict_eq
    (charged : Charged limiter requests)
    (positive : 0 < limiter.limit)
    {now : Nat}
    (oneWindow : OneWindow (now :: requests.map Prod.snd)) :
    limiter.evict now = limiter := by
  have kept : ∀ entry ∈ limiter.queues, prune now entry.2 = entry.2 ∧ entry.2 ≠ [] := by
    intro entry present
    have queue := Queues.times_of_mem charged.distinct present
    have pruned := charged.prune_times oneWindow entry.1
    rw [queue] at pruned
    refine ⟨pruned, ?_⟩
    have requested := (charged.known entry.1).mp (List.mem_map_of_mem present)
    have counted := List.count_pos_iff.mpr requested
    rw [← queue, charged.queued, ← List.length_pos_iff, List.length_take, length_timesOf]
    omega
  have pruned : limiter.queues.map (fun entry => (entry.1, prune now entry.2)) =
      limiter.queues := by
    refine (List.map_congr_left fun entry present => ?_).trans
      (List.map_id limiter.queues)
    rw [(kept entry present).1]
    rfl
  have filled : limiter.queues.filter (fun entry => !entry.2.isEmpty) =
      limiter.queues := by
    rw [List.filter_eq_self]
    intro entry present
    simpa using (kept entry present).2
  rw [evict, pruned, filled]

end Charged
end Limiter
end Admission
end FlemishDesk
