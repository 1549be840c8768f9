import FlemishDesk.Watch.Operation

/-!
# Guards of what operations share

A guard admits one operation at a time to what it protects: the flag admits one check,
and the memory is held by one operation.  The owner of a guard is the only operation of
a kind.  A step of one operation leaves the owner alone, takes a guard that is free, or
gives back a guard that the operation owns; so a property of what is protected is a
matter of the owner's steps, and when the guard is free it holds for everyone.
-/

namespace FlemishDesk
namespace Watch

/-- The operations of a kind are the owner of a guard, if it has one, and no other. -/
def Owns (kind : Operation -> Bool) (owner : Option Nat) (operations : List Operation) :
    Prop :=
  ∀ tag, owner = some tag <->
    ∃ operation, operations[tag]? = some operation ∧ kind operation = true

/-- What a step of one operation does to a guard: nothing, or it takes the guard, which
was free, or it gives the guard back. -/
def Handover (tag : Nat) (before after : Bool) (owner next : Option Nat) : Prop :=
  (after = before ∧ next = owner) ∨
    (before = false ∧ after = true ∧ owner = none ∧ next = some tag) ∨
    (before = true ∧ after = false ∧ next = none)

namespace Owns

variable {kind : Operation -> Bool} {owner next : Option Nat}
  {operations : List Operation}

theorem eq_some
    (owns : Owns kind owner operations)
    {tag : Nat}
    {operation : Operation}
    (present : operations[tag]? = some operation)
    (ofKind : kind operation = true) :
    owner = some tag :=
  (owns tag).mpr ⟨operation, present, ofKind⟩

theorem append
    (owns : Owns kind owner operations)
    {operation : Operation}
    (otherKind : kind operation = false) :
    Owns kind owner (operations ++ [operation]) := by
  intro tag
  rw [owns tag]
  constructor
  · rintro ⟨earlier, present, ofKind⟩
    refine ⟨earlier, ?_, ofKind⟩
    rw [List.getElem?_append_left (List.getElem?_eq_some_iff.mp present).1]
    exact present
  · rintro ⟨found, present, ofKind⟩
    refine ⟨found, ?_, ofKind⟩
    rw [List.getElem?_append] at present
    split at present
    · exact present
    · obtain rfl := List.mem_singleton.mp (List.mem_of_getElem? present)
      exact absurd ofKind (by simp [otherKind])

theorem set
    (owns : Owns kind owner operations)
    {tag : Nat}
    {before after : Operation}
    (present : operations[tag]? = some before)
    (handover : Handover tag (kind before) (kind after) owner next) :
    Owns kind next (operations.set tag after) := by
  have bound : tag < operations.length := (List.getElem?_eq_some_iff.mp present).1
  intro other
  by_cases same : tag = other
  · subst same
    have here : (∃ operation, (operations.set tag after)[tag]? = some operation ∧
        kind operation = true) <-> kind after = true := by
      simp [List.getElem?_set_self bound]
    rw [here]
    rcases handover with ⟨kept, rfl⟩ | ⟨_, taken, _, rfl⟩ | ⟨_, left, rfl⟩
    · rw [kept, owns tag]
      simp [present]
    · simp [taken]
    · simp [left]
  · rw [List.getElem?_set_ne same]
    rcases handover with ⟨_, rfl⟩ | ⟨_, _, free, rfl⟩ | ⟨owning, _, rfl⟩
    · exact owns other
    · rw [← owns other, free]
      simp [same]
    · rw [← owns other, owns.eq_some present owning]
      simp [same]

end Owns

/-- A property holds of the owner of a guard; of a guard that is free it holds of every
operation that is not of the kind. -/
structure Guarded (kind : Operation -> Bool) (owner : Option Nat)
    (operations : List Operation)
    (property : Operation -> Prop) : Prop where
  owns : Owns kind owner operations
  free : owner = none -> ∀ operation, kind operation = false -> property operation
  held : ∀ tag operation, owner = some tag -> operations[tag]? = some operation ->
    property operation

namespace Guarded

variable {kind : Operation -> Bool} {owner next : Option Nat}
  {operations : List Operation}
  {property changed : Operation -> Prop}

theorem nil (idle : ∀ operation, kind operation = false -> property operation) :
    Guarded kind none [] property := by
  refine ⟨?_, fun _ => idle, ?_⟩
  · intro tag
    simp
  · intro tag operation owning
    exact absurd owning (by simp)

theorem append
    (guarded : Guarded kind owner operations property)
    {operation : Operation}
    (otherKind : kind operation = false) :
    Guarded kind owner (operations ++ [operation]) property := by
  refine ⟨guarded.owns.append otherKind, guarded.free, ?_⟩
  intro tag found owning present
  obtain ⟨earlier, presentBefore, _⟩ := (guarded.owns tag).mp owning
  rw [List.getElem?_append_left (List.getElem?_eq_some_iff.mp presentBefore).1] at present
  exact guarded.held tag found owning present

/-- A guarded property holds of an operation that may act on what the guard protects. -/
theorem of_mayAct
    (guarded : Guarded kind owner operations property)
    {tag : Nat}
    {operation : Operation}
    (present : operations[tag]? = some operation)
    (mayAct : kind operation = true ∨ owner = none) :
    property operation := by
  cases ofKind : kind operation with
  | true => exact guarded.held tag operation (guarded.owns.eq_some present ofKind) present
  | false =>
      rcases mayAct with ofKind' | free
      · exact absurd ofKind' (by simp [ofKind])
      · exact guarded.free free operation ofKind

/-- A step of an operation that may act on what the guard protects. -/
theorem set_of_mayAct
    (guarded : Guarded kind owner operations property)
    {tag : Nat}
    {before after : Operation}
    (present : operations[tag]? = some before)
    (handover : Handover tag (kind before) (kind after) owner next)
    (mayAct : kind before = true ∨ owner = none)
    (reached : changed after)
    (alike : kind after = false -> ∀ operation, kind operation = false ->
      changed operation) :
    Guarded kind next (operations.set tag after) changed := by
  have bound : tag < operations.length := (List.getElem?_eq_some_iff.mp present).1
  have owns : Owns kind next (operations.set tag after) :=
    guarded.owns.set present handover
  refine ⟨owns, ?_, ?_⟩
  · intro free operation otherKind
    cases ofKind : kind after with
    | true =>
        have owning := owns.eq_some (List.getElem?_set_self bound) ofKind
        exact absurd (free.symm.trans owning) (by simp)
    | false => exact alike ofKind operation otherKind
  · intro other operation owning found
    have same : tag = other := by
      rcases handover with ⟨_, kept⟩ | ⟨_, _, _, taken⟩ | ⟨_, _, left⟩
      · rcases mayAct with ofKind | free
        · have owned := guarded.owns.eq_some present ofKind
          exact Option.some.inj (owned.symm.trans (kept.symm.trans owning))
        · exact absurd (free.symm.trans (kept.symm.trans owning)) (by simp)
      · exact Option.some.inj (taken.symm.trans owning)
      · exact absurd (left.symm.trans owning) (by simp)
    subst same
    rw [List.getElem?_set_self bound] at found
    obtain rfl := Option.some.inj found
    exact reached

/-- A step of an operation that another one keeps from what the guard protects. -/
theorem set_of_excluded
    (guarded : Guarded kind owner operations property)
    {tag : Nat}
    {before after : Operation}
    (present : operations[tag]? = some before)
    (handover : Handover tag (kind before) (kind after) owner next)
    (otherKind : kind before = false)
    (owned : owner ≠ none)
    (frame : ∀ operation, property operation -> changed operation) :
    Guarded kind next (operations.set tag after) changed := by
  have owns : Owns kind next (operations.set tag after) :=
    guarded.owns.set present handover
  have kept : next = owner := by
    rcases handover with ⟨_, same⟩ | ⟨_, _, free, _⟩ | ⟨ofKind, _, _⟩
    · exact same
    · exact absurd free owned
    · exact absurd ofKind (by simp [otherKind])
  subst kept
  refine ⟨owns, fun free => absurd free owned, ?_⟩
  intro other operation owning found
  obtain ⟨holder, presentBefore, ofKind⟩ := (guarded.owns other).mp owning
  have different : tag ≠ other := by
    rintro rfl
    rw [present] at presentBefore
    obtain rfl := Option.some.inj presentBefore
    exact absurd ofKind (by simp [otherKind])
  rw [List.getElem?_set_ne different] at found
  exact frame operation (guarded.held other operation owning found)

/-- A guarded property changes with a step of one operation when the step establishes
the changed property, which does not tell operations of other kinds apart, and when a
step of an operation of another kind leaves the property of the others alone. -/
theorem set
    (guarded : Guarded kind owner operations property)
    {tag : Nat}
    {before after : Operation}
    (present : operations[tag]? = some before)
    (handover : Handover tag (kind before) (kind after) owner next)
    (acts : property before -> changed after)
    (alike : kind after = false -> changed after ->
      ∀ operation, kind operation = false -> changed operation)
    (frame : kind before = false -> ∀ operation, property operation ->
      changed operation) :
    Guarded kind next (operations.set tag after) changed := by
  by_cases mayAct : kind before = true ∨ owner = none
  · have reached : changed after := acts (guarded.of_mayAct present mayAct)
    refine guarded.set_of_mayAct present handover mayAct reached ?_
    intro otherKind
    exact alike otherKind reached
  · obtain ⟨ofKind, owned⟩ := not_or.mp mayAct
    have otherKind : kind before = false := Bool.eq_false_iff.mpr ofKind
    exact guarded.set_of_excluded present handover otherKind owned (frame otherKind)

end Guarded

end Watch
end FlemishDesk
