import FlemishDesk.Proofs.Storage.Walking

/-!
# Directories made on the way

Making the directories of a path puts directories where nothing stood and changes
nothing else, wherever it stops.  A path that they are made for holds what it held
before, as long as it does not step back out of a directory that was missing: a double
dot that led nowhere may lead somewhere now.
-/

namespace FlemishDesk
namespace Storage
namespace Disk

variable {disk made left : Disk} {working location : Location} {path : Path}
  {paths : List Path}

/-- What it takes to make a directory, and what the disk is then. -/
theorem createDirectory_eq_ok (success : disk.createDirectory working path = .ok made) :
    ∃ place, disk.approach working path = .ok place ∧ Path.isDots place.name = false ∧
      disk.node? place.location = none ∧ made = disk.put place.location .directory := by
  rw [createDirectory] at success
  split at success
  · cases success
  next place approached =>
    have isDirectory := (approach_eq_ok_iff.mp approached).2.2.1
    split at success
    · cases success
    next plain =>
      have noDots : Path.isDots place.name = false := by simpa using plain
      rw [enter_of_noDots noDots isDirectory] at success
      by_cases long : longestName < place.name.length
      · simp [long] at success
      cases found : disk.node? place.location with
      | none =>
          simp only [long, found, Option.isSome_none, Bool.false_eq_true,
            if_false] at success
          exact ⟨place, approached, noDots, found, (Except.ok.inj success).symm⟩
      | some node => simp [long, found] at success

/-- Some of the directories of a list have been made, one after the other. -/
inductive Makes (working : Location) (paths : List Path) (disk : Disk) :
    Disk -> Prop where
  /-- None has been made. -/
  | nothing : Makes working paths disk disk
  /-- One more has been made. -/
  | directory
      {made next : Disk}
      {path : Path}
      (earlier : Makes working paths disk made)
      (listed : path ∈ paths)
      (success : made.createDirectory working path = .ok next) :
      Makes working paths disk next

theorem Makes.ensureDirectory
    (makes : Makes working paths disk made)
    {path : Path}
    (listed : path ∈ paths) :
    Makes working paths disk (made.ensureDirectory working path).2 := by
  rw [Disk.ensureDirectory]
  split
  · next success => exact .directory makes listed success
  · exact makes

theorem Makes.createAlong
    (makes : Makes working paths disk made)
    {list : List Path}
    (listed : list ⊆ paths) :
    Makes working paths disk (made.createAlong working list).2 := by
  induction list generalizing made with
  | nil => exact makes
  | cons path parents inductionHypothesis =>
      obtain ⟨here, above⟩ := List.cons_subset.mp listed
      have first := makes.ensureDirectory here
      rw [Disk.createAlong]
      split
      · next unmade failed =>
          rw [failed] at first
          have rest := inductionHypothesis first above
          split
          · next stopped => rwa [stopped] at rest
          · next finished =>
              rw [finished] at rest
              exact rest.ensureDirectory here
      · exact first

/-- Making the directories of a path makes some of them, even when it fails. -/
theorem makes_createDirectories (disk : Disk) (working : Location) (path : Path) :
    Makes working (Path.ancestors path) disk
      (disk.createDirectories working path).2 :=
  Makes.nothing.createAlong (List.Subset.refl _)

/-! ## What stands after directories were made -/

/-- Directories are made where nothing stood. -/
theorem Makes.node? (makes : Makes working paths disk left) (location : Location) :
    left.node? location = disk.node? location ∨
      disk.node? location = none ∧ left.node? location = some .directory := by
  induction makes with
  | nothing => exact Or.inl rfl
  | directory earlier _ success inductionHypothesis =>
      obtain ⟨place, _, _, absent, rfl⟩ := createDirectory_eq_ok success
      by_cases here : location = place.location
      · rw [here, node?_put_self _ (location_ne_nil place)]
        rw [here, absent] at inductionHypothesis
        refine Or.inr ⟨?_, rfl⟩
        rcases inductionHypothesis with same | ⟨before, _⟩
        · exact same.symm
        · exact before
      · rw [node?_put_of_ne _ here]
        exact inductionHypothesis

theorem Makes.kept (makes : Makes working paths disk left) : Extends disk left := by
  intro location node stands
  rcases makes.node? location with same | ⟨absent, _⟩
  · rw [same, stands]
  · rw [stands] at absent
    cases absent

/-- Files are those that were there. -/
theorem Makes.file
    (makes : Makes working paths disk left)
    {content : List UInt8}
    (isFile : left.node? location = some (.file content)) :
    disk.node? location = some (.file content) := by
  rcases makes.node? location with same | ⟨_, isDirectory⟩
  · rw [← same, isFile]
  · rw [isFile] at isDirectory
    cases isDirectory

theorem Makes.closed (makes : Makes working paths disk left) (closed : disk.Closed) :
    left.Closed := by
  induction makes with
  | nothing => exact closed
  | directory earlier _ success inductionHypothesis =>
      obtain ⟨place, approached, _, _, rfl⟩ := createDirectory_eq_ok success
      exact inductionHypothesis.put_directory (approach_eq_ok_iff.mp approached).2.2.1

/-- No directory can be made where paths start at no directory. -/
theorem Makes.eq_of_no_origin
    (makes : Makes working paths disk left)
    (nowhere : ∀ other ∈ paths, Path.steps other ≠ [] ->
      disk.node? (origin working other) ≠ some .directory) :
    left = disk := by
  induction makes with
  | nothing => rfl
  | directory earlier listed success inductionHypothesis =>
      subst inductionHypothesis
      obtain ⟨place, approached, noDots, _⟩ := createDirectory_eq_ok success
      obtain ⟨others, isSteps, walked⟩ := walk_steps_of_approach approached noDots
      have isDirectory := (approach_eq_ok_iff.mp approached).2.2.1
      exact absurd (node?_of_walk walked isDirectory)
        (nowhere _ listed (by simp [isSteps]))

/-! ## The path that directories are made for -/

/-- Paths of directories that a path lies in, as far as they lead anywhere. -/
def Above (path : Path) (paths : List Path) : Prop :=
  ∀ other ∈ paths, Path.steps other ≠ [] ->
    Path.isAbsolute other = Path.isAbsolute path ∧
      Path.steps other <+: Path.steps path ∧ Path.steps other ≠ Path.steps path

/-- The names of a path fall into two parts: the first ones lead to a base, and none of
the others leads back. -/
structure Fork (disk : Disk) (working : Location) (path : Path)
    (first others : List Name) (base : Location) : Prop where
  /-- The two parts are the names of the path. -/
  parts : Path.names path = first ++ others
  /-- The first part leads to the base. -/
  reached : disk.walk (origin working path) first = .ok base
  /-- The second part goes onward. -/
  onward : [dot, dot] ∉ others

variable {first others : List Name} {base : Location}

theorem Fork.kept
    (fork : Fork disk working path first others base)
    (kept : Extends disk left) :
    Fork left working path first others base :=
  ⟨fork.parts, kept.walk fork.reached, fork.onward⟩

/-- The location that the names of a path lead to from a base. -/
def goal (base : Location) (others : List Name) : Location :=
  base ++ Path.withoutDots others

theorem Fork.walk_eq_ok_iff (fork : Fork disk working path first others base) :
    disk.walk (origin working path) (Path.names path) = .ok location ↔
      disk.walk base others = .ok location := by
  rw [fork.parts, walk_append_of_ok fork.reached]

theorem Fork.eq_goal
    (fork : Fork disk working path first others base)
    (located : disk.locate working path = .ok location) :
    location = goal base others :=
  eq_of_walk fork.onward (fork.walk_eq_ok_iff.mp (locate_eq_ok_iff.mp located).2.2.1)

/-- On a well-formed disk, something stands at the goal when the names lead there. -/
theorem Fork.isSome_goal
    (fork : Fork disk working path first others base)
    (closed : disk.Closed)
    (started : disk.node? (origin working path) = some .directory)
    (walked : disk.walk base others = .ok location) :
    (disk.node? (goal base others)).isSome := by
  have found :=
    closed.isSome_of_walk (by rw [started]; rfl) (fork.walk_eq_ok_iff.mpr walked)
  rw [eq_of_walk fork.onward walked] at found
  exact found

theorem Fork.steps_eq (fork : Fork disk working path first others base) :
    Path.steps path = Path.withoutDots first ++ Path.withoutDots others := by
  rw [Path.steps, fork.parts, Path.withoutDots_append]

/-- Some of the steps behind the base lead to where they say. -/
theorem Fork.eq_of_walk
    (fork : Fork disk working path first others base)
    {between : List Name}
    (listed : between ⊆ Path.withoutDots others)
    (walked : disk.walk (origin working path) (Path.withoutDots first ++ between) =
      .ok location) :
    location = base ++ between := by
  rw [walk_append_of_ok (walk_withoutDots fork.reached)] at walked
  have isLocation := Disk.eq_of_walk
    (fun back => fork.onward (Path.mem_withoutDots.mp (listed back)).1) walked
  rwa [Path.withoutDots_eq_self fun step present =>
    (Path.mem_withoutDots.mp (listed present)).2] at isLocation

/-- No way leads on over a name in a directory in which there is nothing of that
name. -/
theorem walk_ne_ok_of_missing
    {place : Place}
    {before : List Name}
    (walked : disk.walk location before = .ok place.directory)
    (noDots : Path.isDots place.name = false)
    (absent : disk.node? place.location = none)
    (rest : List Name)
    (target : Location) :
    disk.walk location (before ++ [place.name] ++ rest) ≠ .ok target := by
  intro reached
  rw [List.append_assoc, walk_append_of_ok walked] at reached
  obtain ⟨next, entered, _⟩ := walk_cons_eq_ok_iff.mp reached
  rw [enter_of_noDots noDots (node?_of_enter entered), absent] at entered
  split at entered <;> simp at entered

/-- A directory that a path lies in is missing only between its base and its goal. -/
theorem Fork.location_of_missing
    (fork : Fork disk working path first others base)
    {other : Path}
    (sameStart : Path.isAbsolute other = Path.isAbsolute path)
    (isAbove : Path.steps other <+: Path.steps path)
    {place : Place}
    (approached : disk.approach working other = .ok place)
    (noDots : Path.isDots place.name = false)
    (absent : disk.node? place.location = none) :
    ∃ steps, Path.steps other = Path.withoutDots first ++ steps ∧
      place.location = base ++ steps := by
  obtain ⟨before, isSteps, walked⟩ := walk_steps_of_approach approached noDots
  rw [origin, sameStart] at walked
  -- The steps that lead to the base are there, and the last step of the directory is
  -- not.
  have beyond : ¬ Path.steps other <+: Path.withoutDots first := by
    rintro ⟨rest, whole⟩
    have reached := walk_withoutDots fork.reached
    rw [← whole, isSteps] at reached
    exact walk_ne_ok_of_missing walked noDots absent rest base reached
  obtain ⟨steps, whole⟩ : Path.withoutDots first <+: Path.steps other :=
    (List.prefix_or_prefix_of_prefix isAbove
      (fork.steps_eq ▸ List.prefix_append _ _)).resolve_left beyond
  have nonempty : steps ≠ [] := by
    rintro rfl
    rw [List.append_nil] at whole
    exact beyond (whole ▸ List.prefix_rfl)
  obtain ⟨between, name, rfl⟩ := (List.eq_nil_or_concat steps).resolve_left nonempty
  rw [List.concat_eq_append] at whole
  refine ⟨between ++ [name], whole.symm, ?_⟩
  rw [fork.steps_eq, ← whole, List.prefix_append_right_inj] at isAbove
  obtain ⟨isBefore, isName⟩ := List.append_inj'
    ((List.append_assoc _ _ _).trans (whole.trans isSteps)) rfl
  rw [← isBefore] at walked
  have isDirectory := fork.eq_of_walk
    (fun _ present => isAbove.subset (List.mem_append_left _ present)) walked
  rw [Place.location, isDirectory, isName, List.append_assoc]

/-- Nothing is made at the goal of a path. -/
theorem Makes.node?_goal
    (makes : Makes working paths disk left)
    (above : Above path paths)
    (fork : Fork disk working path first others base) :
    left.node? (goal base others) = disk.node? (goal base others) := by
  induction makes with
  | nothing => rfl
  | directory earlier listed success inductionHypothesis =>
      obtain ⟨place, approached, noDots, absent, rfl⟩ := createDirectory_eq_ok success
      obtain ⟨before, isSteps, _⟩ := walk_steps_of_approach approached noDots
      obtain ⟨sameStart, isAbove, notAll⟩ := above _ listed (by simp [isSteps])
      obtain ⟨steps, isOther, isLocation⟩ := (fork.kept earlier.kept).location_of_missing
        sameStart isAbove approached noDots absent
      have elsewhere : goal base others ≠ place.location := by
        rw [goal, isLocation]
        intro same
        have sameSteps := List.append_cancel_left same
        exact notAll (by rw [isOther, fork.steps_eq, sameSteps])
      rw [node?_put_of_ne _ elsewhere]
      exact inductionHypothesis

/-- Everything between the base of a path and its goal is kept when something stands at
the goal. -/
theorem Makes.node?_between
    (makes : Makes working paths disk left)
    (closed : disk.Closed)
    (stands : (disk.node? (goal base others)).isSome)
    {steps : List Name}
    (isStart : steps <+: Path.withoutDots others) :
    left.node? (base ++ steps) =
      disk.node? (base ++ steps) := by
  obtain ⟨rest, whole⟩ := isStart
  rw [goal, ← whole, ← List.append_assoc] at stands
  have found : (disk.node? (base ++ steps)).isSome := by
    by_cases last : rest = []
    · simpa [last] using stands
    · rw [closed.above (by simpa using last) stands]
      rfl
  obtain ⟨node, isNode⟩ := Option.isSome_iff_exists.mp found
  rw [isNode, makes.kept _ _ isNode]

/-- The way from the base to the goal is the same after directories were made. -/
theorem Makes.walk_goal
    (makes : Makes working paths disk left)
    (closed : disk.Closed)
    (above : Above path paths)
    (started : disk.node? (origin working path) = some .directory)
    (fork : Fork disk working path first others base) :
    left.walk base others = .ok location ↔ disk.walk base others = .ok location := by
  by_cases stands : (disk.node? (goal base others)).isSome
  · exact walk_congr fork.onward fun steps isStart =>
      makes.node?_between closed stands isStart
  · -- A way that leads to the goal finds something there, on either disk.
    constructor
    · intro walked
      have found := (fork.kept makes.kept).isSome_goal (makes.closed closed)
        (makes.kept _ _ started) walked
      rw [makes.node?_goal above fork] at found
      exact absurd found stands
    · intro walked
      exact absurd (fork.isSome_goal closed started walked) stands

/-- A path holds what it held before directories were made on its way onward. -/
theorem Makes.holds?_of_fork
    (makes : Makes working paths disk left)
    (closed : disk.Closed)
    (above : Above path paths)
    (started : disk.node? (origin working path) = some .directory)
    (fork : Fork disk working path first others base) :
    left.holds? working path = disk.holds? working path := by
  have sameGoal := makes.node?_goal above fork
  apply holds?_congr
  · intro location
    rw [locate_eq_ok_iff, locate_eq_ok_iff, (fork.kept makes.kept).walk_eq_ok_iff,
      fork.walk_eq_ok_iff, makes.walk_goal closed above started fork, started,
      makes.kept _ _ started]
    refine and_congr_right fun _ => and_congr_right fun _ => and_congr_right fun walked =>
      ?_
    rw [eq_of_walk fork.onward walked]
    exact sameGoal ▸ Iff.rfl
  · intro location located
    rw [fork.eq_goal located, sameGoal]

/-- A path holds nothing when names of it lead nowhere for another reason than that
something is missing, before and after directories were made. -/
theorem Makes.holds?_of_barred
    (makes : Makes working paths disk left)
    (closed : disk.Closed)
    (started : disk.node? (origin working path) = some .directory)
    (parts : Path.names path = first ++ others)
    {reason : Error}
    (barred : disk.walk (origin working path) first = .error reason)
    (notMissing : reason ≠ .missing) :
    left.holds? working path = disk.holds? working path := by
  have nowhere (other : Disk) (barred : other.walk (origin working path) first =
      .error reason)
      (location : Location) : other.locate working path ≠ .ok location := by
    intro located
    have walked := (locate_eq_ok_iff.mp located).2.2.1
    rw [parts] at walked
    obtain ⟨_, reached, _⟩ := walk_append_eq_ok_iff.mp walked
    rw [barred] at reached
    cases reached
  have barredLeft := makes.kept.walk_error closed (by rw [started]; rfl) barred notMissing
  apply holds?_congr
  · intro location
    exact ⟨fun located => absurd located (nowhere left barredLeft location),
      fun located => absurd located (nowhere disk barred location)⟩
  · intro location located
    exact absurd located (nowhere disk barred location)

/-! ## Stepping back -/

/-- A path steps back out of a directory that is missing: a double dot comes after names
that lead nowhere yet. -/
def StepsBackFromMissing (disk : Disk) (working : Location) (path : Path) : Prop :=
  ∃ before behind, Path.names path = before ++ [dot, dot] :: behind ∧
    disk.walk (origin working path) before = .error .missing

theorem stepsBackFromMissing_iff (disk : Disk) (working : Location) (path : Path) :
    disk.StepsBackFromMissing working path ↔
      ∃ index ∈ List.range (Path.names path).length,
        (Path.names path)[index]? = some [dot, dot] ∧
        disk.walk (origin working path) ((Path.names path).take index) =
          .error .missing := by
  constructor
  · rintro ⟨before, behind, parts, missing⟩
    refine ⟨before.length, ?_, ?_, ?_⟩
    · simp [parts]
    · simp [parts]
    · rwa [parts, List.take_left]
  · rintro ⟨index, inside, isDots, missing⟩
    obtain ⟨bound, isDots⟩ := List.getElem?_eq_some_iff.mp isDots
    refine ⟨_, (Path.names path).drop (index + 1), ?_, missing⟩
    rw [← isDots, List.getElem_cons_drop, List.take_append_drop]

instance (result : Except Error Location) : Decidable (result = .error .missing) :=
  match result with
  | .ok _ => isFalse (by simp)
  | .error reason => decidable_of_iff (reason = .missing) (by simp)

instance (disk : Disk) (working : Location) (path : Path) :
    Decidable (disk.StepsBackFromMissing working path) :=
  decidable_of_iff _ (disk.stepsBackFromMissing_iff working path).symm

/-- Behind the last double dot of a path, if it has any, names go onward. -/
theorem exists_last_dots (names : List Name) :
    [dot, dot] ∉ names ∨
      ∃ before behind, names = before ++ [dot, dot] :: behind ∧ [dot, dot] ∉ behind := by
  by_cases present : [dot, dot] ∈ names
  · obtain ⟨behind, before, isReverse, onward⟩ :=
      List.eq_append_cons_of_mem (List.mem_reverse.mpr present)
    refine Or.inr ⟨before.reverse, behind.reverse, ?_, by simpa using onward⟩
    rw [← List.reverse_reverse names, isReverse]
    simp
  · exact Or.inl present

/-- A path that does not step back out of a missing directory holds what it held before
the directories that it lies in were made. -/
theorem Makes.holds?
    (makes : Makes working paths disk left)
    (closed : disk.Closed)
    (above : Above path paths)
    (noStepBack : ¬ disk.StepsBackFromMissing working path) :
    left.holds? working path = disk.holds? working path := by
  by_cases started : disk.node? (origin working path) = some .directory
  · rcases exists_last_dots (Path.names path) with onward | ⟨before, behind, parts,
      onward⟩
    · exact makes.holds?_of_fork closed above started
        ⟨(List.nil_append _).symm, rfl, onward⟩
    · cases walked : disk.walk (origin working path) before with
      | error reason =>
          refine makes.holds?_of_barred closed started parts walked ?_
          rintro rfl
          exact noStepBack ⟨before, behind, parts, walked⟩
      | ok middle =>
          rw [List.append_cons] at parts
          by_cases isDirectory : disk.node? middle = some .directory
          · have reached : disk.walk (origin working path) (before ++ [[dot, dot]]) =
                .ok middle.dropLast :=
              walk_concat_eq_ok_iff.mpr
                ⟨middle, walked,
                  enter_eq_ok_iff.mpr ⟨isDirectory, Or.inr (Or.inl ⟨rfl, rfl⟩)⟩⟩
            exact makes.holds?_of_fork closed above started ⟨parts, reached, onward⟩
          · have barred : disk.walk (origin working path) (before ++ [[dot, dot]]) =
                .error .notDirectory := by
              rw [walk_append_of_ok walked, walk, enter,
                if_pos (by simpa using isDirectory)]
            exact makes.holds?_of_barred closed started parts barred (by simp)
  · rw [makes.eq_of_no_origin]
    intro other listed nonempty
    rw [origin, (above other listed nonempty).1]
    exact started

/-- A path that does not step back out of a missing directory does not do so after the
directories that it lies in were made. -/
theorem Makes.not_stepsBackFromMissing
    (makes : Makes working paths disk left)
    (closed : disk.Closed)
    (above : Above path paths)
    (noStepBack : ¬ disk.StepsBackFromMissing working path) :
    ¬ left.StepsBackFromMissing working path := by
  rintro ⟨before, behind, parts, missing⟩
  by_cases started : disk.node? (origin working path) = some .directory
  · cases walked : disk.walk (origin working path) before with
    | ok middle =>
        rw [makes.kept.walk walked] at missing
        cases missing
    | error reason =>
        by_cases isMissing : reason = .missing
        · exact noStepBack ⟨before, behind, parts, isMissing ▸ walked⟩
        · rw [makes.kept.walk_error closed (by rw [started]; rfl) walked
            isMissing] at missing
          exact isMissing (Except.error.inj missing)
  · have unchanged : left = disk := by
      apply makes.eq_of_no_origin
      intro other listed nonempty
      rw [origin, (above other listed nonempty).1]
      exact started
    exact noStepBack ⟨before, behind, parts, unchanged ▸ missing⟩

end Disk
end Storage
end FlemishDesk
