import FlemishDesk.Proofs.Release.Latest
import FlemishDesk.Proofs.Release.Timestamp
import Mathlib

/-!
# Which release of a listing counts as the latest

Releases are ordered by the instants at which they were published, and a release whose
date cannot be read comes before all others.  This order is linear, so a listing has at
most one place at which a release stands that is not earlier than any other one and
later than all before it.  The latest release of a listing is the one at this place,
among the releases that may be announced.
-/

namespace FlemishDesk
namespace Release

/-! ## Instants -/

/-- A moment as a point of a linear order.  A leap second comes before the second that
follows. -/
def Moment.instant (moment : Moment) : Int ×ₗ Nat :=
  toLex (moment.seconds, moment.nanoseconds)

/-- When a release was published; nothing is earlier than a date that cannot be read. -/
def instant (release : Release) : WithBot (Int ×ₗ Nat) :=
  release.published?.map Moment.instant

theorem isBefore_iff (first second : Moment) :
    first.isBefore second = true <-> first.instant < second.instant := by
  rw [Moment.instant, Moment.instant, Prod.Lex.toLex_lt_toLex]
  simp [Moment.isBefore]

theorem isEarlier_iff (first second : Release) :
    isEarlier first.published? second.published? = true <->
      first.instant < second.instant := by
  unfold instant
  cases first.published? with
  | none =>
      cases second.published? with
      | none => exact iff_of_false Bool.false_ne_true (lt_irrefl _)
      | some second => exact iff_of_true rfl (WithBot.bot_lt_coe _)
  | some first =>
      cases second.published? with
      | none => exact iff_of_false Bool.false_ne_true not_lt_bot
      | some second => exact (isBefore_iff first second).trans WithBot.coe_lt_coe.symm

theorem not_isEarlier_iff (first second : Release) :
    isEarlier first.published? second.published? = false <->
      second.instant ≤ first.instant := by
  rw [← Bool.not_eq_true, isEarlier_iff, not_lt]

/-- A release was published at an instant when its date writes the reading of a clock
then. -/
theorem instant_eq_coe_iff {release : Release} {instant : Int ×ₗ Nat} :
    release.instant = instant <->
      ∃ date, release.publishedAt = some date ∧
        ∃ reading : ClockReading, reading.Writes date.toList ∧
          instant = reading.moment.instant := by
  change release.published?.map Moment.instant = some instant <-> _
  simp only [published?, Option.map_eq_some_iff, Option.bind_eq_some_iff,
    Moment.parse?_eq_some_iff]
  constructor
  · rintro ⟨moment, ⟨date, dated, reading, written, rfl⟩, rfl⟩
    exact ⟨date, dated, reading, written, rfl⟩
  · rintro ⟨date, dated, reading, written, rfl⟩
    exact ⟨reading.moment, ⟨date, dated, reading, written, rfl⟩, rfl⟩

/-! ## Releases that may be announced -/

/-- A release may be announced: it is public, it has a date, and it is no preview unless
previews count. -/
structure Announceable (includePrereleases : Bool) (release : Release) : Prop where
  isPublic : release.draft = some false
  dated : ∃ date, release.publishedAt = some date ∧ date ≠ ""
  counts : includePrereleases = true ∨ release.prerelease = some false

theorem isEligible_iff (includePrereleases : Bool) (release : Release) :
    isEligible includePrereleases release = true <->
      Announceable includePrereleases release := by
  have dated : (release.publishedAt.any fun text => !text.isEmpty) = true <->
      ∃ date, release.publishedAt = some date ∧ date ≠ "" := by
    cases release.publishedAt <;> simp
  rw [isEligible, Bool.and_eq_true, Bool.and_eq_true, Bool.or_eq_true, beq_iff_eq,
    beq_iff_eq, dated]
  constructor
  · rintro ⟨⟨isPublic, counts⟩, dated⟩
    exact ⟨isPublic, dated, counts⟩
  · rintro ⟨isPublic, dated, counts⟩
    exact ⟨⟨isPublic, counts⟩, dated⟩

/-! ## The place of the latest release -/

/-- The latest release stands at a place of a listing: of the releases that may be
announced, none is later, and those in front are earlier. -/
structure IsLatestAt (includePrereleases : Bool) (releases : List Release) (place : Nat)
    (latest : Release) : Prop where
  stands : releases[place]? = some latest
  announceable : Announceable includePrereleases latest
  notLater : ∀ other ∈ releases, Announceable includePrereleases other ->
    other.instant ≤ latest.instant
  earlier : ∀ front < place, ∀ other, releases[front]? = some other ->
    Announceable includePrereleases other -> other.instant < latest.instant

variable {includePrereleases : Bool} {releases : List Release}

namespace IsLatestAt

variable {place otherPlace : Nat} {latest other : Release}

theorem not_lt
    (isLatest : IsLatestAt includePrereleases releases place latest)
    (otherLatest : IsLatestAt includePrereleases releases otherPlace other) :
    ¬ place < otherPlace := by
  intro front
  have earlier :=
    otherLatest.earlier place front latest isLatest.stands isLatest.announceable
  have notLater := isLatest.notLater other (List.mem_of_getElem? otherLatest.stands)
    otherLatest.announceable
  exact absurd earlier notLater.not_gt

/-- A listing has one place of the latest release. -/
theorem place_eq
    (isLatest : IsLatestAt includePrereleases releases place latest)
    (otherLatest : IsLatestAt includePrereleases releases otherPlace other) :
    otherPlace = place :=
  Nat.le_antisymm (Nat.le_of_not_lt (isLatest.not_lt otherLatest))
    (Nat.le_of_not_lt (otherLatest.not_lt isLatest))

end IsLatestAt

/-- The first of the latest releases that may be announced has its place in the whole
listing. -/
theorem IsFirstLatest.exists_isLatestAt
    {latest : Release}
    (isFirst : IsFirstLatest latest (releases.filter (isEligible includePrereleases))) :
    ∃ place, IsLatestAt includePrereleases releases place latest := by
  have notEarlier {other : Release} (present : other ∈ releases)
      (announceable : Announceable includePrereleases other) : other.instant ≤
        latest.instant := by
    have eligible := (isEligible_iff includePrereleases other).mpr announceable
    exact (not_isEarlier_iff latest other).mp
      (isFirst.not_isEarlier (List.mem_filter.mpr ⟨present, eligible⟩))
  have eligible := (List.mem_filter.mp isFirst.mem).2
  obtain ⟨before, behind, split, earlier, _⟩ := isFirst
  obtain ⟨front, rest, rfl, rfl, restSplit⟩ := List.filter_eq_append_iff.mp split
  obtain ⟨skipped, others, rfl, noneSkipped, _, rfl⟩ :=
    List.filter_eq_cons_iff.mp restSplit
  refine ⟨(front ++ skipped).length, by simp [← List.append_assoc],
    (isEligible_iff includePrereleases latest).mp eligible,
    fun other present announceable => notEarlier present announceable, ?_⟩
  intro place inFront other stands announceable
  have eligible := (isEligible_iff includePrereleases other).mpr announceable
  rw [← List.append_assoc, List.getElem?_append_left inFront] at stands
  rcases List.mem_append.mp (List.mem_of_getElem? stands) with inBefore | isSkipped
  · exact (isEarlier_iff other latest).mp
      (earlier other (List.mem_filter.mpr ⟨inBefore, eligible⟩))
  · exact absurd eligible (noneSkipped other isSkipped)

theorem latest?_eq_none_iff :
    latest? includePrereleases releases = none <->
      ∀ release ∈ releases, ¬ Announceable includePrereleases release := by
  have noneEligible : releases.filter (isEligible includePrereleases) = [] <->
      ∀ release ∈ releases, ¬ Announceable includePrereleases release := by
    simp only [List.filter_eq_nil_iff, isEligible_iff]
  rw [← noneEligible]
  unfold latest?
  cases releases.filter (isEligible includePrereleases) <;> simp

theorem latest?_eq_some_iff {latest : Release} :
    latest? includePrereleases releases = some latest <->
      ∃ place, IsLatestAt includePrereleases releases place latest := by
  constructor
  · exact fun chosen => (isFirstLatest_of_latest? chosen).exists_isLatestAt
  · rintro ⟨place, isLatest⟩
    cases chosen : latest? includePrereleases releases with
    | none =>
        exact absurd isLatest.announceable
          (latest?_eq_none_iff.mp chosen latest (List.mem_of_getElem? isLatest.stands))
    | some other =>
        obtain ⟨otherPlace, otherLatest⟩ :=
          (isFirstLatest_of_latest? chosen).exists_isLatestAt
        obtain rfl := isLatest.place_eq otherLatest
        rw [← otherLatest.stands, isLatest.stands]

/-- No release is chosen exactly when none may be announced.  Otherwise the listing has
exactly one place at which the latest release stands, and the release at this place is
chosen.  The dates are compared as instants: the moment of a date is what the clock
shows less the offset of the clock. -/
theorem latest?_stands_at_unique_place
    (includePrereleases : Bool)
    (releases : List Release) :
    (latest? includePrereleases releases = none <->
        ∀ release ∈ releases, ¬ Announceable includePrereleases release) ∧
      ((∃ release ∈ releases, Announceable includePrereleases release) <->
        ∃! place, ∃ latest, IsLatestAt includePrereleases releases place latest) ∧
      (∀ latest, latest? includePrereleases releases = some latest <->
        ∃ place, IsLatestAt includePrereleases releases place latest) ∧
      ∀ (release : Release) (instant : Int ×ₗ Nat),
        release.instant = instant <->
          ∃ date, release.publishedAt = some date ∧
            ∃ reading : ClockReading, reading.Writes date.toList ∧
              instant = reading.moment.instant := by
  refine ⟨latest?_eq_none_iff, ⟨?_, ?_⟩, fun latest => latest?_eq_some_iff,
    fun release instant => instant_eq_coe_iff⟩
  · rintro ⟨release, present, announceable⟩
    cases chosen : latest? includePrereleases releases with
    | none => exact absurd announceable (latest?_eq_none_iff.mp chosen release present)
    | some latest =>
        obtain ⟨place, isLatest⟩ := latest?_eq_some_iff.mp chosen
        refine ⟨place, ⟨latest, isLatest⟩, ?_⟩
        rintro otherPlace ⟨other, otherLatest⟩
        exact isLatest.place_eq otherLatest
  · rintro ⟨place, ⟨latest, isLatest⟩, _⟩
    exact ⟨latest, List.mem_of_getElem? isLatest.stands, isLatest.announceable⟩

end Release
end FlemishDesk
