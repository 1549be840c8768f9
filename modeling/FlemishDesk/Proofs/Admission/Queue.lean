import FlemishDesk.Admission.Limiter

/-!
# The queues of a limiter

What a limiter does to the queue of one client.  A request touches the queue of its own
client only, and a sweep prunes every queue; both follow from the fact that no client
has two queues.  Pruning keeps an end of the queue, and what it drops lies before the
window.  A queue in order of time is pruned to exactly what lies in the window.
-/

namespace FlemishDesk
namespace Admission

/-! ## Pruning -/

/-- A time lies in the window that ends at a moment. -/
def inWindow (moment time : Nat) : Bool :=
  moment - time ≤ window

/-- Pruning takes a beginning off a queue, all of which lies before the window. -/
theorem exists_eq_append_prune
    (now : Nat)
    (queue : List Nat) :
    ∃ dropped, queue = dropped ++ prune now queue ∧
      ∀ time ∈ dropped, inWindow now time = false := by
  refine ⟨queue.takeWhile fun time => now - time > window,
    List.takeWhile_append_dropWhile.symm, ?_⟩
  intro time present
  have outside := List.all_eq_true.mp List.all_takeWhile time present
  simp only [decide_eq_true_eq] at outside
  simp only [inWindow, decide_eq_false_iff_not]
  omega

/-- A queue gets no longer when it is pruned. -/
theorem length_prune_le
    (now : Nat)
    (queue : List Nat) :
    (prune now queue).length ≤ queue.length :=
  (List.dropWhile_sublist _).length_le

/-- Pruning a queue that is in order of time leaves what lies in the window. -/
theorem length_prune_of_sorted
    (now : Nat)
    (queue : List Nat)
    (sorted : queue.Pairwise (· ≤ ·)) :
    (prune now queue).length = queue.countP (inWindow now) := by
  induction queue with
  | nil => rfl
  | cons time queue inductionHypothesis =>
      obtain ⟨first, rest⟩ := List.pairwise_cons.mp sorted
      by_cases old : now - time > window
      · have outside : inWindow now time = false := by
          simp only [inWindow, decide_eq_false_iff_not]
          omega
        have dropsFirst : prune now (time :: queue) = prune now queue := by
          simp [prune, old]
        rw [dropsFirst, inductionHypothesis rest]
        simp [outside]
      · have allRecent : ∀ later ∈ time :: queue, inWindow now later = true := by
          intro later present
          have after : time ≤ later := by
            rcases List.mem_cons.mp present with rfl | inTail
            · exact Nat.le_refl later
            · exact first later inTail
          simp only [inWindow, decide_eq_true_eq]
          omega
        have keepsAll : prune now (time :: queue) = time :: queue := by
          simp [prune, old]
        rw [keepsAll, List.countP_eq_length.mpr allRecent]

/-! ## Looking up and storing queues -/

namespace Queues

/-- No client has two queues. -/
def Distinct (queues : Queues) : Prop :=
  (queues.map Prod.fst).Nodup

theorem lookup_cons_eq
    (entry : String × List Nat)
    (others : Queues)
    (client : String) :
    List.lookup client (entry :: others) =
      if client = entry.1 then some entry.2 else others.lookup client := by
  obtain ⟨key, queue⟩ := entry
  by_cases same : client = key
  · simp [same]
  · have different : (client == key) = false := by simpa using same
    simp [List.lookup_cons, same, different]

/-- A client has the queue that it was given, and the other clients keep theirs. -/
theorem lookup_put
    (queues : Queues)
    (client other : String)
    (queue : List Nat) :
    (queues.put client queue).lookup other =
      if other = client then some queue else queues.lookup other := by
  induction queues with
  | nil => simp [put, lookup_cons_eq]
  | cons entry others inductionHypothesis =>
      by_cases found : entry.1 = client
      · subst found
        by_cases same : other = entry.1 <;> simp [put, lookup_cons_eq, same]
      · by_cases same : other = entry.1
        · subst same
          simp [put, found, lookup_cons_eq]
        · simp [put, found, lookup_cons_eq, same, inductionHypothesis]

@[simp] theorem times_nil (client : String) :
    Queues.times [] client = [] := rfl

@[simp] theorem times_cons
    (entry : String × List Nat)
    (others : Queues)
    (client : String) :
    Queues.times (entry :: others) client =
      if client = entry.1 then entry.2 else Queues.times others client := by
  simp only [times, lookup_cons_eq]
  split <;> rfl

@[simp] theorem times_put
    (queues : Queues)
    (client other : String)
    (queue : List Nat) :
    (queues.put client queue).times other =
      if other = client then queue else queues.times other := by
  simp only [times, lookup_put]
  split <;> rfl

/-- Giving a client a queue tracks that client and no other one besides those that
were tracked. -/
theorem mem_keys_put
    (queues : Queues)
    (client : String)
    (queue : List Nat)
    (other : String) :
    other ∈ (queues.put client queue).map Prod.fst ↔
      other = client ∨ other ∈ queues.map Prod.fst := by
  induction queues with
  | nil => simp [put]
  | cons entry others inductionHypothesis =>
      by_cases found : entry.1 = client
      · subst found
        simp [put]
      · simp only [put, beq_iff_eq, found, if_false, List.map_cons, List.mem_cons,
          inductionHypothesis]
        exact or_left_comm

theorem Distinct.put
    {queues : Queues}
    (distinct : queues.Distinct)
    (client : String)
    (queue : List Nat) :
    Distinct (queues.put client queue) := by
  induction queues with
  | nil => simp [Distinct, Queues.put]
  | cons entry others inductionHypothesis =>
      obtain ⟨absent, rest⟩ := List.nodup_cons.mp distinct
      by_cases found : entry.1 = client
      · subst found
        simpa [Distinct, Queues.put] using distinct
      · have stillAbsent : entry.1 ∉ (Queues.put client queue others).map Prod.fst := by
          rw [mem_keys_put]
          rintro (equal | present)
          · exact found equal
          · exact absent present
        simpa [Distinct, Queues.put, found] using
          List.nodup_cons.mpr ⟨stillAbsent, inductionHypothesis rest⟩

theorem lookup_of_not_mem
    {queues : Queues}
    {client : String}
    (absent : client ∉ queues.map Prod.fst) :
    queues.lookup client = none := by
  rw [List.lookup_eq_none_iff]
  intro entry present
  rw [bne_iff_ne]
  rintro rfl
  exact absent (List.mem_map_of_mem present)

/-- The queues after a sweep. -/
def swept (now : Nat) (queues : Queues) : Queues :=
  (queues.map fun entry => (entry.1, prune now entry.2)).filter fun entry =>
    !entry.2.isEmpty

theorem keys_swept_sublist
    (now : Nat)
    (queues : Queues) :
    ((queues.swept now).map Prod.fst).Sublist (queues.map Prod.fst) := by
  have kept :=
    (List.filter_sublist (p := fun entry : String × List Nat => !entry.2.isEmpty)
    (l := queues.map fun entry => (entry.1, prune now entry.2))).map Prod.fst
  simpa [swept, Function.comp_def] using kept

theorem Distinct.swept
    {queues : Queues}
    (distinct : queues.Distinct)
    (now : Nat) :
    Distinct (queues.swept now) :=
  distinct.sublist (keys_swept_sublist now queues)

/-- A sweep prunes the queue of a client, and forgets the client when nothing is left of
it. -/
theorem lookup_swept
    {queues : Queues}
    (distinct : queues.Distinct)
    (now : Nat)
    (client : String) :
    (queues.swept now).lookup client =
      ((queues.lookup client).map (prune now)).filter fun queue => !queue.isEmpty := by
  induction queues with
  | nil => rfl
  | cons entry others inductionHypothesis =>
      obtain ⟨absent, rest⟩ := List.nodup_cons.mp distinct
      have sweptRest := inductionHypothesis rest
      have split : Queues.swept now (entry :: others) =
          if (prune now entry.2).isEmpty then Queues.swept now others
          else (entry.1, prune now entry.2) :: Queues.swept now others := by
        cases pruned : prune now entry.2 <;> simp [Queues.swept, pruned]
      by_cases same : client = entry.1
      · -- The client has no queue behind this one that could come to light.
        subst same
        have gone : (Queues.swept now others).lookup entry.1 = none :=
          lookup_of_not_mem fun present =>
            absent ((keys_swept_sublist now others).subset present)
        cases pruned : prune now entry.2 <;>
          simp [split, lookup_cons_eq, pruned, gone, Option.filter_some]
      · cases pruned : prune now entry.2 <;>
          simp [split, lookup_cons_eq, pruned, same, sweptRest]

/-- A sweep prunes the queue of every client; a client that is forgotten has an empty
queue. -/
theorem times_swept
    {queues : Queues}
    (distinct : queues.Distinct)
    (now : Nat)
    (client : String) :
    (queues.swept now).times client = prune now (queues.times client) := by
  rw [times, times, lookup_swept distinct]
  cases queues.lookup client with
  | none => rfl
  | some queue => cases pruned : prune now queue <;> simp [pruned, Option.filter_some]

end Queues
end Admission
end FlemishDesk
