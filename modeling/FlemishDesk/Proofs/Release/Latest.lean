import FlemishDesk.Release.Basic

/-!
# The latest release of a listing

Moments are ordered in time, and a moment that cannot be read comes before all others.
The release that is kept while a listing is gone through is the first of the latest ones
that were met: those before it are earlier, and those behind it are not later.
-/

namespace FlemishDesk
namespace Release

theorem isEarlier_asymm
    {first second : Option Moment}
    (earlier : isEarlier first second = true) :
    isEarlier second first = false := by
  cases first with
  | none => cases second <;> rfl
  | some first =>
      cases second with
      | none => nomatch earlier
      | some second =>
          simp only [isEarlier, Moment.isBefore, Bool.or_eq_true, Bool.and_eq_true,
            decide_eq_true_eq, beq_iff_eq, Bool.or_eq_false_iff, Bool.and_eq_false_imp,
            decide_eq_false_iff_not] at earlier ⊢
          omega

/-- Of two moments apart, every third one is later than the first or earlier than the
second. -/
theorem isEarlier_or_isEarlier
    {first third : Option Moment}
    (earlier : isEarlier first third = true)
    (second : Option Moment) :
    isEarlier first second = true ∨ isEarlier second third = true := by
  cases third with
  | none => cases first <;> nomatch earlier
  | some third =>
      cases second with
      | none => exact .inr rfl
      | some second =>
          cases first with
          | none => exact .inl rfl
          | some first =>
              simp only [isEarlier, Moment.isBefore, Bool.or_eq_true, Bool.and_eq_true,
                decide_eq_true_eq, beq_iff_eq] at earlier ⊢
              omega

/-- A release is the first of the latest releases of a list. -/
def IsFirstLatest (latest : Release) (releases : List Release) : Prop :=
  ∃ before behind, releases = before ++ latest :: behind ∧
    (∀ other ∈ before, isEarlier other.published? latest.published? = true) ∧
    ∀ other ∈ behind, isEarlier latest.published? other.published? = false

namespace IsFirstLatest

variable {latest best next : Release} {releases others : List Release}

theorem mem (isFirst : IsFirstLatest latest releases) : latest ∈ releases := by
  obtain ⟨before, behind, rfl, _, _⟩ := isFirst
  simp

/-- No release of the list is later. -/
theorem not_isEarlier
    (isFirst : IsFirstLatest latest releases)
    {other : Release}
    (present : other ∈ releases) :
    isEarlier latest.published? other.published? = false := by
  obtain ⟨before, behind, rfl, earlier, notLater⟩ := isFirst
  rcases List.mem_append.mp present with inBefore | inRest
  · exact isEarlier_asymm (earlier other inBefore)
  · rcases List.mem_cons.mp inRest with rfl | inBehind
    · cases same : isEarlier other.published? other.published? with
      | false => rfl
      | true => exact same.symm.trans (isEarlier_asymm same)
    · exact notLater other inBehind

/-- A release in front of a later one does not count. -/
theorem cons_of_isEarlier
    (isFirst : IsFirstLatest latest (next :: others))
    (earlier : isEarlier best.published? next.published? = true) :
    IsFirstLatest latest (best :: next :: others) := by
  have notLater := isFirst.not_isEarlier List.mem_cons_self
  obtain ⟨before, behind, split, earlierBefore, notLaterBehind⟩ := isFirst
  refine ⟨best :: before, behind, by rw [split]; rfl, ?_, notLaterBehind⟩
  intro other present
  rcases List.mem_cons.mp present with rfl | present
  · rcases isEarlier_or_isEarlier earlier latest.published? with earlier | later
    · exact earlier
    · rw [notLater] at later
      nomatch later
  · exact earlierBefore other present

/-- A release that is not later than the one in front of it does not count. -/
theorem cons_of_not_isEarlier
    (isFirst : IsFirstLatest latest (best :: others))
    (notEarlier : isEarlier best.published? next.published? = false) :
    IsFirstLatest latest (best :: next :: others) := by
  obtain ⟨before, behind, split, earlierBefore, notLaterBehind⟩ := isFirst
  cases before with
  | nil =>
      obtain ⟨rfl, rfl⟩ := List.cons.inj split
      refine ⟨[], next :: others, rfl, List.forall_mem_nil _, ?_⟩
      intro other present
      rcases List.mem_cons.mp present with rfl | present
      · exact notEarlier
      · exact notLaterBehind other present
  | cons first before =>
      obtain ⟨rfl, rfl⟩ := List.cons.inj split
      refine ⟨best :: next :: before, behind, rfl, ?_, notLaterBehind⟩
      have bestEarlier := earlierBefore best List.mem_cons_self
      intro other present
      rcases List.mem_cons.mp present with rfl | present
      · exact bestEarlier
      · rcases List.mem_cons.mp present with rfl | present
        · rcases isEarlier_or_isEarlier bestEarlier
            other.published? with earlier | earlier
          · rw [notEarlier] at earlier
            nomatch earlier
          · exact earlier
        · exact earlierBefore other (List.mem_cons_of_mem best present)

end IsFirstLatest

theorem isFirstLatest_foldl_later (best : Release) (others : List Release) :
    IsFirstLatest (others.foldl later best) (best :: others) := by
  induction others generalizing best with
  | nil => exact ⟨[], [], rfl, List.forall_mem_nil _, List.forall_mem_nil _⟩
  | cons next others inductionHypothesis =>
      have isFirst := inductionHypothesis (later best next)
      rw [List.foldl_cons]
      generalize others.foldl later (later best next) = latest at isFirst ⊢
      unfold later at isFirst
      split at isFirst
      · next earlier => exact isFirst.cons_of_isEarlier earlier
      · next notEarlier =>
          exact isFirst.cons_of_not_isEarlier (Bool.eq_false_iff.mpr notEarlier)

/-- The latest release of a listing is the first of the latest that may be announced. -/
theorem isFirstLatest_of_latest?
    {includePrereleases : Bool}
    {releases : List Release}
    {latest : Release}
    (chosen : latest? includePrereleases releases = some latest) :
    IsFirstLatest latest (releases.filter (isEligible includePrereleases)) := by
  unfold latest? at chosen
  split at chosen
  · nomatch chosen
  · next first others eligible =>
      rw [eligible, ← Option.some.inj chosen]
      exact isFirstLatest_foldl_later first others

end Release
end FlemishDesk
