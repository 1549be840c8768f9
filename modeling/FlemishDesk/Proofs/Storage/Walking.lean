import FlemishDesk.Proofs.Storage.Files
import FlemishDesk.Proofs.Storage.Names

/-!
# Where a path leads

Walking along a path is walking along its names one after the other, and single dots can
be left out.  Without double dots a way only goes onward, so that where it ends can be
read off the names.  What stands there is compared between two disks: one disk may hold
more than the other one, or agree with it along the way.
-/

namespace FlemishDesk
namespace Storage
namespace Disk

variable {disk : Disk} {working location target : Location} {path : Path}

/-! ## Names one after the other -/

@[simp] theorem walk_nil (disk : Disk) (location : Location) :
    disk.walk location [] = .ok location := rfl

theorem walk_cons_eq_ok_iff {name : Name} {others : List Name} :
    disk.walk location (name :: others) = .ok target ↔
      ∃ next, disk.enter location name = .ok next ∧
        disk.walk next others = .ok target := by
  rw [walk]
  cases disk.enter location name <;> simp

theorem walk_append_of_ok
    {first : List Name}
    (walked : disk.walk location first = .ok target)
    (second : List Name) :
    disk.walk location (first ++ second) = disk.walk target second := by
  induction first generalizing location with
  | nil =>
      obtain rfl := Except.ok.inj walked
      rfl
  | cons name others inductionHypothesis =>
      obtain ⟨next, entered, further⟩ := walk_cons_eq_ok_iff.mp walked
      rw [List.cons_append, walk, entered]
      exact inductionHypothesis further

theorem walk_append_eq_ok_iff {first second : List Name} :
    disk.walk location (first ++ second) = .ok target ↔
      ∃ middle, disk.walk location first = .ok middle ∧
        disk.walk middle second = .ok target := by
  constructor
  · intro walked
    induction first generalizing location with
    | nil => exact ⟨location, rfl, walked⟩
    | cons name others inductionHypothesis =>
        obtain ⟨next, entered, further⟩ := walk_cons_eq_ok_iff.mp walked
        obtain ⟨middle, reached, further⟩ := inductionHypothesis further
        exact ⟨middle, walk_cons_eq_ok_iff.mpr ⟨next, entered, reached⟩, further⟩
  · rintro ⟨middle, reached, walked⟩
    rw [walk_append_of_ok reached, walked]

theorem walk_concat_eq_ok_iff {names : List Name} {name : Name} :
    disk.walk location (names ++ [name]) = .ok target ↔
      ∃ middle, disk.walk location names = .ok middle ∧
        disk.enter middle name = .ok target := by
  simp only [walk_append_eq_ok_iff, walk_cons_eq_ok_iff, walk_nil, Except.ok.injEq,
    exists_eq_right]

/-! ## Single names -/

/-- Where a name leads: from a directory to itself, to the one above, or to what is in
it. -/
theorem enter_eq_ok_iff {name : Name} :
    disk.enter location name = .ok target ↔
      disk.node? location = some .directory ∧
        (name = [dot] ∧ target = location ∨
          name = [dot, dot] ∧ target = location.dropLast ∨
          Path.isDots name = false ∧ ¬longestName < name.length ∧
            target = location ++ [name] ∧ (disk.node? target).isSome) := by
  by_cases isDirectory : disk.node? location = some .directory
  · by_cases isDot : name = [dot]
    · simp only [enter, isDirectory, isDot, Path.isDots]
      simpa using eq_comm
    by_cases dots : name = [dot, dot]
    · simp only [enter, isDirectory, dots, Path.isDots]
      simpa using eq_comm
    have noDots : Path.isDots name = false := by simp [Path.isDots, isDot, dots]
    simp only [isDirectory, isDot, dots, noDots, true_and, false_and, false_or]
    have entered : disk.enter location name =
        if longestName < name.length then .error .tooLong
        else if (disk.node? (location ++ [name])).isSome then
          .ok (location ++ [name])
        else .error .missing := by
      simp [enter, isDirectory, isDot, dots]
    rw [entered]
    constructor
    · intro reached
      split at reached
      · cases reached
      next short =>
        split at reached
        · next found =>
            obtain rfl := Except.ok.inj reached
            exact ⟨short, rfl, found⟩
        · cases reached
    · rintro ⟨short, rfl, found⟩
      rw [if_neg short, if_pos found]
  · simp [enter, isDirectory]

/-- A name does not lead to what has another name in the directory. -/
theorem ne_of_enter
    {name other : Name}
    (entered : disk.enter location name = .ok target)
    (different : other ≠ name) :
    target ≠ location ++ [other] := by
  intro same
  obtain ⟨_, ⟨_, isTarget⟩ | ⟨_, isTarget⟩ | ⟨_, _, isTarget, _⟩⟩ :=
    enter_eq_ok_iff.mp entered
  · rw [same] at isTarget
    simp at isTarget
  · have sameLength := congrArg List.length (same.symm.trans isTarget)
    rw [List.length_append, List.length_dropLast, List.length_singleton] at sameLength
    omega
  · have sameName := List.append_cancel_left (same.symm.trans isTarget)
    rw [List.cons.injEq] at sameName
    exact different sameName.1

/-- A name that is no double dot leads onward, a single dot nowhere. -/
theorem eq_of_enter
    {name : Name}
    (onward : name ≠ [dot, dot])
    (entered : disk.enter location name = .ok target) :
    target = location ++ Path.withoutDots [name] := by
  obtain ⟨_, ⟨rfl, rfl⟩ | ⟨dots, _⟩ | ⟨noDots, _, rfl, _⟩⟩ := enter_eq_ok_iff.mp entered
  · simp
  · exact absurd dots onward
  · simp only [Path.isDots, Bool.or_eq_false_iff, beq_eq_false_iff_ne] at noDots
    rw [Path.withoutDots_cons_of_ne noDots.1]
    rfl

/-- Without double dots, a way leads to where its names say. -/
theorem eq_of_walk
    {names : List Name}
    (onward : [dot, dot] ∉ names)
    (walked : disk.walk location names = .ok target) :
    target = location ++ Path.withoutDots names := by
  induction names generalizing location with
  | nil =>
      obtain rfl := Except.ok.inj walked
      simp
  | cons name others inductionHypothesis =>
      obtain ⟨next, entered, walked⟩ := walk_cons_eq_ok_iff.mp walked
      obtain ⟨different, onward⟩ := not_or.mp (mt List.mem_cons.mpr onward)
      rw [inductionHypothesis onward walked, eq_of_enter (Ne.symm different) entered,
        List.append_assoc, ← Path.withoutDots_append, List.singleton_append]

/-- Single dots can be left out of a way. -/
theorem walk_withoutDots
    {names : List Name}
    (walked : disk.walk location names = .ok target) :
    disk.walk location (Path.withoutDots names) = .ok target := by
  induction names generalizing location with
  | nil => exact walked
  | cons name others inductionHypothesis =>
      obtain ⟨next, entered, further⟩ := walk_cons_eq_ok_iff.mp walked
      by_cases isDot : name = [dot]
      · subst isDot
        have nowhere : next = location := by simpa using eq_of_enter (by simp) entered
        subst nowhere
        exact inductionHypothesis further
      · rw [Path.withoutDots_cons_of_ne isDot]
        exact walk_cons_eq_ok_iff.mpr ⟨next, entered, inductionHypothesis further⟩

/-- What is missing on a way is missing without single dots too. -/
theorem walk_withoutDots_missing
    {names : List Name}
    (failed : disk.walk location names = .error .missing) :
    disk.walk location (Path.withoutDots names) = .error .missing := by
  induction names generalizing location with
  | nil => cases failed
  | cons name others inductionHypothesis =>
      by_cases isDot : name = [dot]
      · subst isDot
        rw [walk] at failed
        cases entered : disk.enter location [dot] with
        | ok next =>
            have nowhere : next = location := by simpa using eq_of_enter (by simp) entered
            rw [entered, nowhere] at failed
            exact inductionHypothesis failed
        | error reason =>
            -- A single dot leads nowhere only when it does not stand behind a
            -- directory.
            have isReason : reason = .notDirectory := by
              rw [enter] at entered
              split at entered
              · exact (Except.error.inj entered).symm
              · cases entered
            rw [entered, isReason] at failed
            cases failed
      · rw [Path.withoutDots_cons_of_ne isDot, walk]
        rw [walk] at failed
        cases entered : disk.enter location name with
        | ok next =>
            rw [entered] at failed
            exact inductionHypothesis failed
        | error reason =>
            rw [entered] at failed
            exact failed

/-! ## Whole paths -/

/-- The location where a path starts. -/
def origin (working : Location) (path : Path) : Location :=
  if Path.isAbsolute path then [] else working

/-- A text that a file system takes for a path. -/
def IsPath (path : Path) : Prop :=
  path.contains 0 = false ∧
    ¬longestPath < path.length ∧ path.isEmpty = false

/-- A path leads to where its last name leads from its directory. -/
theorem locate_eq_ok_iff_enter :
    disk.locate working path = .ok target ↔
      ∃ place, disk.approach working path = .ok place ∧
        disk.enter place.directory place.name = .ok target ∧
        (place.slash = true -> disk.node? target = some .directory) := by
  rw [locate]
  cases approached : disk.approach working path with
  | error reason => simp
  | ok place =>
      simp only [Except.ok.injEq, exists_eq_left']
      cases entered : disk.enter place.directory place.name with
      | error reason => simp
      | ok reached =>
          dsimp only
          split
          · next barred =>
              simp only [Bool.and_eq_true, bne_iff_ne] at barred
              constructor
              · intro located
                cases located
              · rintro ⟨isTarget, fits⟩
                obtain rfl := Except.ok.inj isTarget
                exact absurd (fits barred.1) barred.2
          · next fits =>
              constructor
              · intro located
                obtain rfl := Except.ok.inj located
                exact ⟨rfl, by simpa using fits⟩
              · exact And.left

/-- From a directory, names lead to where the last of them leads from where the others
do. -/
theorem walk_eq_ok_iff_dropLast
    {names : List Name}
    (isDirectory : disk.node? location = some .directory) :
    disk.walk location names = .ok target ↔
      ∃ directory, disk.walk location names.dropLast = .ok directory ∧
        disk.enter directory (names.getLastD [dot]) = .ok target := by
  rcases List.eq_nil_or_concat names with rfl | ⟨others, name, rfl⟩
  · have nowhere : disk.enter location [dot] = .ok location :=
      enter_eq_ok_iff.mpr ⟨isDirectory, Or.inl ⟨rfl, rfl⟩⟩
    simp [nowhere]
  · rw [List.concat_eq_append, List.dropLast_concat, List.getLastD_concat]
    exact walk_concat_eq_ok_iff

/-- A path leads to where its names lead from a directory. -/
theorem locate_eq_ok_iff :
    disk.locate working path = .ok target ↔
      IsPath path ∧ disk.node? (origin working path) = some .directory ∧
      disk.walk (origin working path) (Path.names path) = .ok target ∧
      (Path.endsInSlash path = true -> disk.node? target = some .directory) := by
  rw [locate_eq_ok_iff_enter]
  constructor
  · rintro ⟨place, approached, entered, fits⟩
    obtain ⟨valid, walked, isDirectory, isPlace⟩ := approach_eq_ok_iff.mp approached
    have started := node?_of_walk walked isDirectory
    rw [isPlace] at entered fits
    exact ⟨valid, started,
      (walk_eq_ok_iff_dropLast started).mpr ⟨place.directory, walked, entered⟩, fits⟩
  · rintro ⟨valid, started, walked, fits⟩
    obtain ⟨directory, walked, entered⟩ := (walk_eq_ok_iff_dropLast started).mp walked
    exact ⟨⟨directory, (Path.names path).getLastD [dot], Path.endsInSlash path⟩,
      approach_eq_ok_iff.mpr ⟨valid, walked, node?_of_enter entered, rfl⟩, entered, fits⟩

/-- The last step of a path leads on from where the steps before it lead. -/
theorem walk_steps_of_approach
    {place : Place}
    (approached : disk.approach working path = .ok place)
    (noDots : Path.isDots place.name = false) :
    ∃ others, Path.steps path = others ++ [place.name] ∧
      disk.walk (origin working path) others = .ok place.directory := by
  obtain ⟨_, walked, _, isPlace⟩ := approach_eq_ok_iff.mp approached
  have isName : place.name = (Path.names path).getLastD [dot] := by rw [isPlace]
  rw [isName] at noDots ⊢
  rcases List.eq_nil_or_concat (Path.names path) with empty | ⟨others, name, isConcat⟩
  · rw [empty] at noDots
    cases noDots
  · rw [List.concat_eq_append] at isConcat
    rw [isConcat, List.dropLast_concat] at walked
    rw [isConcat, List.getLastD_concat] at noDots ⊢
    simp only [Path.isDots, Bool.or_eq_false_iff, beq_eq_false_iff_ne] at noDots
    refine ⟨Path.withoutDots others, ?_, walk_withoutDots walked⟩
    rw [Path.steps, isConcat, Path.withoutDots_append,
      Path.withoutDots_cons_of_ne noDots.1, Path.withoutDots_nil]

/-! ## What stands where a path leads -/

/-- What stands where a path leads, if it leads anywhere. -/
def holds? (disk : Disk) (working : Location) (path : Path) : Option Node :=
  (disk.locate working path).toOption.bind disk.node?

theorem holds?_eq_some_iff {node : Node} :
    disk.holds? working path = some node ↔
      ∃ location, disk.locate working path = .ok location ∧
        disk.node? location = some node := by
  rw [holds?]
  cases disk.locate working path <;> simp [Except.toOption]

/-- A file can be read exactly where a path leads to it. -/
theorem read_eq_ok_iff {content : List UInt8} :
    disk.read working path = .ok content ↔
      disk.holds? working path = some (.file content) := by
  rw [holds?_eq_some_iff, read]
  cases disk.locate working path with
  | error error => simp
  | ok location =>
      simp only [Except.ok.injEq, exists_eq_left']
      cases disk.node? location with
      | none => simp
      | some node => cases node <;> simp

/-- A path holds the same on two disks on which it leads to the same location, if
anywhere, and the same stands there. -/
theorem holds?_congr
    {other : Disk}
    (sameWay : ∀ location, other.locate working path = .ok location ↔
      disk.locate working path = .ok location)
    (sameNode : ∀ location, disk.locate working path = .ok location ->
      other.node? location = disk.node? location) :
    other.holds? working path = disk.holds? working path := by
  apply Option.ext
  intro node
  rw [holds?_eq_some_iff, holds?_eq_some_iff]
  constructor
  · rintro ⟨location, located, stands⟩
    have before := (sameWay location).mp located
    exact ⟨location, before, sameNode location before ▸ stands⟩
  · rintro ⟨location, located, stands⟩
    exact ⟨location, (sameWay location).mpr located,
      (sameNode location located).trans stands⟩

/-! ## Well-formed disks -/

/-- Everything but the root lies in a directory. -/
def Closed (disk : Disk) : Prop :=
  ∀ location name, (disk.node? (location ++ [name])).isSome ->
    disk.node? location = some .directory

/-- A disk is well-formed if its entries lie in directories. -/
theorem closed_iff (disk : Disk) :
    disk.Closed ↔ ∀ entry ∈ disk, entry.1 ≠ [] ->
      disk.node? entry.1.dropLast = some .directory := by
  constructor
  · rintro closed ⟨location, node⟩ present nonempty
    obtain ⟨above, name, rfl⟩ := (List.eq_nil_or_concat location).resolve_left nonempty
    rw [List.concat_eq_append] at present nonempty ⊢
    rw [List.dropLast_concat]
    apply closed above name
    rw [node?_of_ne_nil disk nonempty, List.lookup_isSome_iff]
    exact ⟨_, present, beq_self_eq_true _⟩
  · intro listed location name stands
    rw [node?_of_ne_nil disk (by simp), List.lookup_isSome_iff] at stands
    obtain ⟨entry, present, same⟩ := stands
    have isLocation : location ++ [name] = entry.1 := eq_of_beq same
    have isDirectory := listed entry present (by rw [← isLocation]; simp)
    rwa [← isLocation, List.dropLast_concat] at isDirectory

instance (disk : Disk) : Decidable disk.Closed :=
  decidable_of_iff _ disk.closed_iff.symm

/-- Everything above what stands somewhere is a directory. -/
theorem Closed.above
    (closed : disk.Closed)
    {names : List Name}
    (nonempty : names ≠ [])
    (stands : (disk.node? (location ++ names)).isSome) :
    disk.node? location = some .directory := by
  induction names generalizing location with
  | nil => exact absurd rfl nonempty
  | cons name others inductionHypothesis =>
      apply closed location name
      by_cases last : others = []
      · rw [last] at stands
        exact stands
      · rw [List.append_cons] at stands
        rw [inductionHypothesis last stands]
        rfl

/-- On a well-formed disk, dots lead to directories. -/
theorem Closed.node?_of_dots
    (closed : disk.Closed)
    {name : Name}
    (dots : Path.isDots name = true)
    (entered : disk.enter location name = .ok target) :
    disk.node? target = some .directory := by
  obtain ⟨isDirectory, ⟨_, rfl⟩ | ⟨_, rfl⟩ | ⟨noDots, _⟩⟩ := enter_eq_ok_iff.mp entered
  · exact isDirectory
  · rcases List.eq_nil_or_concat location with rfl | ⟨above, name, rfl⟩
    · rfl
    · rw [List.concat_eq_append] at isDirectory ⊢
      rw [List.dropLast_concat]
      exact closed above name (by rw [isDirectory]; rfl)
  · rw [noDots] at dots
    cases dots

/-- On a well-formed disk, a name leads to something. -/
theorem Closed.isSome_of_enter
    (closed : disk.Closed)
    {name : Name}
    (entered : disk.enter location name = .ok target) :
    (disk.node? target).isSome := by
  cases dots : Path.isDots name with
  | true =>
      rw [closed.node?_of_dots dots entered]
      rfl
  | false =>
      obtain ⟨_, ⟨rfl, _⟩ | ⟨rfl, _⟩ | ⟨_, _, _, found⟩⟩ := enter_eq_ok_iff.mp entered
      · cases dots
      · cases dots
      · exact found

/-- On a well-formed disk, a way from something leads to something. -/
theorem Closed.isSome_of_walk
    (closed : disk.Closed)
    {names : List Name}
    (starts : (disk.node? location).isSome)
    (walked : disk.walk location names = .ok target) :
    (disk.node? target).isSome := by
  induction names generalizing location with
  | nil =>
      obtain rfl := Except.ok.inj walked
      exact starts
  | cons name others inductionHypothesis =>
      obtain ⟨next, entered, further⟩ := walk_cons_eq_ok_iff.mp walked
      exact inductionHypothesis (closed.isSome_of_enter entered) further

/-- A directory can be put into a directory. -/
theorem Closed.put_directory
    (closed : disk.Closed)
    {name : Name}
    (isDirectory : disk.node? location = some .directory) :
    (disk.put (location ++ [name]) .directory).Closed := by
  have keeps (other : Location) (before : disk.node? other = some .directory) :
      (disk.put (location ++ [name]) .directory).node? other = some .directory := by
    by_cases here : other = location ++ [name]
    · rw [here]
      exact disk.node?_put_self (by simp) _
    · rw [disk.node?_put_of_ne here]
      exact before
  intro other last stands
  apply keeps
  by_cases here : other ++ [last] = location ++ [name]
  · rw [(List.append_inj' here rfl).1]
    exact isDirectory
  · rw [disk.node?_put_of_ne here] at stands
    exact closed other last stands

/-! ## Two disks -/

/-- Whatever stands on one disk stands on another one. -/
def Extends (before after : Disk) : Prop :=
  ∀ location node, before.node? location = some node -> after.node? location = some node

variable {before after : Disk}

/-- A name leads to where it led. -/
theorem Extends.enter
    (kept : Extends before after)
    {name : Name}
    (entered : before.enter location name = .ok target) :
    after.enter location name = .ok target := by
  obtain ⟨isDirectory, leads⟩ := enter_eq_ok_iff.mp entered
  refine enter_eq_ok_iff.mpr ⟨kept _ _ isDirectory, ?_⟩
  rcases leads with isDot | dots | ⟨noDots, short, isTarget, found⟩
  · exact Or.inl isDot
  · exact Or.inr (Or.inl dots)
  · obtain ⟨node, stands⟩ := Option.isSome_iff_exists.mp found
    exact Or.inr (Or.inr ⟨noDots, short, isTarget, by rw [kept _ _ stands]; rfl⟩)

/-- Names lead to where they led. -/
theorem Extends.walk
    (kept : Extends before after)
    {names : List Name}
    (walked : before.walk location names = .ok target) :
    after.walk location names = .ok target := by
  induction names generalizing location with
  | nil => exact walked
  | cons name others inductionHypothesis =>
      obtain ⟨next, entered, further⟩ := walk_cons_eq_ok_iff.mp walked
      exact walk_cons_eq_ok_iff.mpr
        ⟨next, kept.enter entered, inductionHypothesis further⟩

/-- A name that led nowhere still leads nowhere, unless something was missing. -/
theorem Extends.enter_error
    (kept : Extends before after)
    {name : Name}
    {reason : Error}
    (starts : (before.node? location).isSome)
    (failed : before.enter location name = .error reason)
    (notMissing : reason ≠ .missing) :
    after.enter location name = .error reason := by
  obtain ⟨node, stands⟩ := Option.isSome_iff_exists.mp starts
  have same : after.node? location = before.node? location := by
    rw [stands, kept _ _ stands]
  rw [Disk.enter] at failed ⊢
  rw [same]
  split at failed
  · next noDirectory =>
      rw [if_pos noDirectory]
      exact failed
  next isDirectory =>
    rw [if_neg isDirectory]
    split at failed
    · cases failed
    next noDot =>
      rw [if_neg noDot]
      split at failed
      · cases failed
      next noDots =>
        rw [if_neg noDots]
        split at failed
        · next long =>
            rw [if_pos long]
            exact failed
        · dsimp only at failed
          split at failed
          · cases failed
          · exact absurd (Except.error.inj failed).symm notMissing

/-- Names that led nowhere still lead nowhere, unless something was missing. -/
theorem Extends.walk_error
    (kept : Extends before after)
    (closed : before.Closed)
    {names : List Name}
    {reason : Error}
    (starts : (before.node? location).isSome)
    (failed : before.walk location names = .error reason)
    (notMissing : reason ≠ .missing) :
    after.walk location names = .error reason := by
  induction names generalizing location with
  | nil => cases failed
  | cons name others inductionHypothesis =>
      rw [Disk.walk] at failed ⊢
      cases entered : before.enter location name with
      | error stopped =>
          rw [entered] at failed
          obtain rfl := Except.error.inj failed
          rw [kept.enter_error starts entered notMissing]
      | ok next =>
          rw [entered] at failed
          rw [kept.enter entered]
          exact inductionHypothesis (closed.isSome_of_enter entered) failed

/-- Without double dots, names lead to the same on two disks that agree along the
way. -/
theorem walk_congr
    {names : List Name}
    (onward : [dot, dot] ∉ names)
    (agree : ∀ steps, steps <+: Path.withoutDots names ->
      after.node? (location ++ steps) =
        before.node? (location ++ steps)) :
    after.walk location names = .ok target ↔ before.walk location names = .ok target := by
  induction names generalizing location with
  | nil => rfl
  | cons name others inductionHypothesis =>
      obtain ⟨different, onward⟩ := not_or.mp (mt List.mem_cons.mpr onward)
      rw [← List.singleton_append, Path.withoutDots_append] at agree
      have sameStart : after.node? location = before.node? location := by
        simpa using agree [] List.nil_prefix
      have sameEnter : after.enter location name = before.enter location name := by
        by_cases isDot : name = [dot]
        · simp [enter, sameStart, isDot]
        · rw [Path.withoutDots_cons_of_ne isDot] at agree
          have sameNext := agree [name] (List.prefix_append _ _)
          simp only [enter, sameStart, sameNext]
      rw [walk, walk, sameEnter]
      cases entered : before.enter location name with
      | error reason => rfl
      | ok next =>
          apply inductionHypothesis onward
          intro steps isStart
          rw [eq_of_enter (Ne.symm different) entered, List.append_assoc]
          exact agree _ ((List.prefix_append_right_inj _).mpr isStart)

end Disk
end Storage
end FlemishDesk
