import FlemishDesk.Storage.Disk

/-!
# Reading files back

A file that was written, or that another file was moved onto, is read back.  Both
operations put a file where no directory stands and leave all directories in place; a
path leads where it led before as long as the directories on its way are still there.
-/

namespace FlemishDesk
namespace Storage
namespace Disk

/-! ## Single locations -/

@[simp] theorem node?_nil (disk : Disk) : disk.node? [] = some .directory := rfl

theorem node?_of_ne_nil
    (disk : Disk)
    {location : Location}
    (nonempty : location ≠ []) :
    disk.node? location = disk.lookup location := by
  cases location with
  | nil => exact absurd rfl nonempty
  | cons name location => rfl

/-- Forgetting a location changes nothing elsewhere. -/
theorem node?_without_of_ne
    (disk : Disk)
    {location other : Location}
    (different : other ≠ location) :
    (disk.without location).node? other = disk.node? other := by
  cases other with
  | nil => rfl
  | cons name names =>
      rw [node?_of_ne_nil _ (by simp), node?_of_ne_nil _ (by simp)]
      induction disk with
      | nil => rfl
      | cons entry disk inductionHypothesis =>
          obtain ⟨place, node⟩ := entry
          rw [without] at inductionHypothesis ⊢
          by_cases here : place = location
          · have elsewhere : (name :: names == place) = false := by
              rw [here]
              exact beq_false_of_ne different
            have dropped : (place != location) = false := by simpa using here
            simp only [List.filter_cons, dropped, Bool.false_eq_true, if_false,
              List.lookup_cons, elsewhere, inductionHypothesis]
          · have kept : (place != location) = true := by simpa using here
            simp only [List.filter_cons, kept, if_true, List.lookup_cons,
              inductionHypothesis]

/-- Nothing stands where it was forgotten. -/
theorem node?_without_self
    (disk : Disk)
    {location : Location}
    (nonempty : location ≠ []) :
    (disk.without location).node? location = none := by
  rw [node?_of_ne_nil _ nonempty, without, List.lookup_eq_none_iff]
  intro entry present
  have different : entry.1 ≠ location := by simpa using (List.mem_filter.mp present).2
  exact bne_iff_ne.mpr different.symm

/-- A location holds what was put there. -/
theorem node?_put_self
    (disk : Disk)
    {location : Location}
    (nonempty : location ≠ [])
    (node : Node) :
    (disk.put location node).node? location = some node := by
  rw [node?_of_ne_nil _ nonempty]
  simp [put]

/-- Putting something at a location changes nothing elsewhere. -/
theorem node?_put_of_ne
    (disk : Disk)
    {location other : Location}
    (different : other ≠ location)
    (node : Node) :
    (disk.put location node).node? other = disk.node? other := by
  rw [← disk.node?_without_of_ne different]
  cases other with
  | nil => rfl
  | cons name names =>
      have elsewhere : (name :: names == location) = false := beq_false_of_ne different
      rw [node?_of_ne_nil _ (by simp), node?_of_ne_nil _ (by simp), put, List.lookup_cons,
        elsewhere]

theorem location_ne_nil (place : Place) : place.location ≠ [] := by
  simp [Place.location]

/-! ## Walking on a changed disk -/

/-- All directories of one disk are directories of another one. -/
def KeepsDirectories (before after : Disk) : Prop :=
  ∀ location, before.node? location = some .directory ->
    after.node? location = some .directory

/-- Putting a file where no directory stands keeps all directories. -/
theorem keepsDirectories_put
    (disk : Disk)
    {location : Location}
    (noDirectory : disk.node? location ≠ some .directory)
    (node : Node) :
    KeepsDirectories disk (disk.put location node) := by
  intro other isDirectory
  have different : other ≠ location := by
    intro same
    rw [same] at isDirectory
    exact noDirectory isDirectory
  rw [disk.node?_put_of_ne different]
  exact isDirectory

/-- The content of a file does not matter to the directories. -/
theorem keepsDirectories_put_file
    (disk : Disk)
    (location : Location)
    (content other : List UInt8) :
    KeepsDirectories (disk.put location (.file content))
      (disk.put location (.file other)) := by
  intro place isDirectory
  by_cases here : place = location
  · subst here
    cases place with
    | nil => rfl
    | cons name names => simp [node?, put] at isDirectory
  · rw [node?_put_of_ne _ here] at isDirectory ⊢
    exact isDirectory

/-- Moving a file to where no directory stands keeps all directories. -/
theorem keepsDirectories_move
    (disk : Disk)
    {source target : Location}
    (sourceNoDirectory : disk.node? source ≠ some .directory)
    (targetNoDirectory : disk.node? target ≠ some .directory)
    (node : Node) :
    KeepsDirectories disk ((disk.without source).put target node) := by
  intro other isDirectory
  have differentSource : other ≠ source := by
    intro same
    rw [same] at isDirectory
    exact sourceNoDirectory isDirectory
  have differentTarget : other ≠ target := by
    intro same
    rw [same] at isDirectory
    exact targetNoDirectory isDirectory
  rw [node?_put_of_ne _ differentTarget, node?_without_of_ne _ differentSource]
  exact isDirectory

/-- A name leads on from a directory only. -/
theorem node?_of_enter
    {disk : Disk}
    {location next : Location}
    {name : Name}
    (entered : disk.enter location name = .ok next) :
    disk.node? location = some .directory := by
  rw [enter] at entered
  split at entered
  · exact absurd entered (by simp)
  · next isDirectory => simpa using isDirectory

/-- A way that ends in a directory starts in one. -/
theorem node?_of_walk
    {disk : Disk}
    {location target : Location}
    {names : List Name}
    (walked : disk.walk location names = .ok target)
    (isDirectory : disk.node? target = some .directory) :
    disk.node? location = some .directory := by
  cases names with
  | nil =>
      rw [walk] at walked
      rw [Except.ok.inj walked]
      exact isDirectory
  | cons name others =>
      rw [walk] at walked
      split at walked
      · exact absurd walked (by simp)
      · next entered => exact node?_of_enter entered

/-- A name that led to a directory still does when the directories are kept. -/
theorem enter_of_keepsDirectories
    {before after : Disk}
    (keeps : KeepsDirectories before after)
    {location next : Location}
    {name : Name}
    (entered : before.enter location name = .ok next)
    (isDirectory : before.node? next = some .directory) :
    after.enter location name = .ok next := by
  have here := node?_of_enter entered
  rw [enter] at entered ⊢
  simp only [here, keeps location here, bne_self_eq_false, Bool.false_eq_true,
    if_false] at entered ⊢
  split at entered
  · next dot => simpa [dot] using entered
  · next notDot =>
      split at entered
      · next dots => simpa [notDot, dots] using entered
      · next notDots =>
          split at entered
          · exact absurd entered (by simp)
          · next short =>
              split at entered
              · have found := Except.ok.inj entered
                rw [found, keeps next isDirectory]
                simp [notDot, notDots, short]
              · exact absurd entered (by simp)

/-- A way to a directory is still there when the directories are kept. -/
theorem walk_of_keepsDirectories
    {before after : Disk}
    (keeps : KeepsDirectories before after)
    {location target : Location}
    {names : List Name}
    (walked : before.walk location names = .ok target)
    (isDirectory : before.node? target = some .directory) :
    after.walk location names = .ok target := by
  induction names generalizing location with
  | nil => exact walked
  | cons name others inductionHypothesis =>
      rw [walk] at walked ⊢
      split at walked
      · exact absurd walked (by simp)
      · next next entered =>
          have between := node?_of_walk walked isDirectory
          rw [enter_of_keepsDirectories keeps entered between]
          exact inductionHypothesis walked

/-- A path that leads somewhere: it is a valid path, and all but its last name lead to a
directory. -/
theorem approach_eq_ok_iff
    {disk : Disk}
    {working : Location}
    {path : Path}
    {place : Place} :
    disk.approach working path = .ok place ↔
      (path.contains 0 = false ∧
        ¬longestPath < path.length ∧ path.isEmpty = false) ∧
      disk.walk (if Path.isAbsolute path then [] else working)
        (Path.names path).dropLast = .ok place.directory ∧
      disk.node? place.directory = some .directory ∧
      place = ⟨place.directory, (Path.names path).getLastD [dot],
        Path.endsInSlash path⟩ := by
  rw [approach]
  simp only
  constructor
  · intro approached
    split at approached
    · exact absurd approached (by simp)
    split at approached
    · exact absurd approached (by simp)
    split at approached
    · exact absurd approached (by simp)
    next valid short nonempty =>
      split at approached
      · exact absurd approached (by simp)
      next directory walked =>
        split at approached
        · next isDirectory =>
            obtain rfl := Except.ok.inj approached
            exact ⟨⟨by simpa using valid, short, by simpa using nonempty⟩, walked,
              eq_of_beq isDirectory, rfl⟩
        · exact absurd approached (by simp)
  · rintro ⟨⟨valid, short, nonempty⟩, walked, isDirectory, isPlace⟩
    rw [valid, nonempty, walked]
    simp only [Bool.false_eq_true, if_false, short, isDirectory, beq_self_eq_true,
      if_true]
    rw [← isPlace]

/-- A path leads to the same place when the directories are kept. -/
theorem approach_of_keepsDirectories
    {before after : Disk}
    (keeps : KeepsDirectories before after)
    {working : Location}
    {path : Path}
    {place : Place}
    (approached : before.approach working path = .ok place) :
    after.approach working path = .ok place := by
  obtain ⟨valid, walked, isDirectory, isPlace⟩ := approach_eq_ok_iff.mp approached
  exact approach_eq_ok_iff.mpr
    ⟨valid, walk_of_keepsDirectories keeps walked isDirectory, keeps _ isDirectory,
      isPlace⟩

/-! ## Files -/

/-- The name of a place is that of a file, as far as the name tells. -/
structure NamesFile (place : Place) : Prop where
  /-- The name is no dots. -/
  noDots : Path.isDots place.name = false
  /-- The name is not too long. -/
  short : ¬longestName < place.name.length
  /-- No slash follows the name. -/
  noSlash : place.slash = false

/-- What a name that is no dots leads to. -/
theorem enter_of_noDots
    {disk : Disk}
    {place : Place}
    (noDots : Path.isDots place.name = false)
    (isDirectory : disk.node? place.directory = some .directory) :
    disk.enter place.directory place.name =
      if longestName < place.name.length then .error .tooLong
      else if (disk.node? place.location).isSome then .ok place.location
      else .error .missing := by
  simp only [Path.isDots, Bool.or_eq_false_iff] at noDots
  simp only [enter, isDirectory, bne_self_eq_false, noDots.1, noDots.2,
    Bool.false_eq_true, if_false]
  rfl

/-- A path that leads to a file reads as its content. -/
theorem read_of_file
    {disk : Disk}
    {working : Location}
    {path : Path}
    {place : Place}
    (approached : disk.approach working path = .ok place)
    (namesFile : NamesFile place)
    {content : List UInt8}
    (isFile : disk.node? place.location = some (.file content)) :
    disk.read working path = .ok content := by
  have isDirectory := (approach_eq_ok_iff.mp approached).2.2.1
  have entered : disk.enter place.directory place.name = .ok place.location := by
    rw [enter_of_noDots namesFile.noDots isDirectory, if_neg namesFile.short, isFile]
    rfl
  simp [read, locate, approached, entered, namesFile.noSlash, isFile]

/-- What it takes to write a file, and what the disk is then. -/
theorem write_eq_ok
    {disk written : Disk}
    {working : Location}
    {path : Path}
    {content : List UInt8}
    (success : disk.write working path content = .ok written) :
    ∃ place, disk.approach working path = .ok place ∧ NamesFile place ∧
      disk.node? place.location ≠ some .directory ∧
      written = disk.put place.location (.file content) := by
  rw [write] at success
  split at success
  · exact absurd success (by simp)
  next place approached =>
    have isDirectory := (approach_eq_ok_iff.mp approached).2.2.1
    split at success
    · exact absurd success (by simp)
    next plain =>
      simp only [Bool.or_eq_true, not_or, Bool.not_eq_true] at plain
      rw [enter_of_noDots plain.1 isDirectory] at success
      by_cases long : longestName < place.name.length
      · simp [long] at success
      refine ⟨place, approached, ⟨plain.1, long, plain.2⟩, ?_⟩
      cases found : disk.node? place.location with
      | none =>
          simp only [long, found, Option.isSome_none, Bool.false_eq_true,
            if_false] at success
          exact ⟨by simp, (Except.ok.inj success).symm⟩
      | some node =>
          simp only [long, found, Option.isSome_some, if_true, if_false] at success
          split at success
          · exact absurd success (by simp)
          · next noDirectory =>
              exact ⟨by simpa using noDirectory, (Except.ok.inj success).symm⟩

/-- A file can be written wherever its name can be that of a file and no directory
stands. -/
theorem write_of_namesFile
    {disk : Disk}
    {working : Location}
    {path : Path}
    {place : Place}
    (approached : disk.approach working path = .ok place)
    (namesFile : NamesFile place)
    (noDirectory : disk.node? place.location ≠ some .directory)
    (content : List UInt8) :
    disk.write working path content = .ok (disk.put place.location (.file content)) := by
  have isDirectory := (approach_eq_ok_iff.mp approached).2.2.1
  rw [write, approached]
  simp only [namesFile.noDots, namesFile.noSlash, Bool.or_self, Bool.false_eq_true,
    if_false, enter_of_noDots namesFile.noDots isDirectory, namesFile.short]
  cases found : disk.node? place.location with
  | none => simp
  | some node =>
      have isFile : (some node == some Node.directory) = false := by
        rw [← found]
        exact beq_false_of_ne noDirectory
      simp only [Option.isSome_some, if_true, found, isFile, Bool.false_eq_true, if_false]

/-- A file that was written is read back. -/
theorem read_of_write
    {disk written : Disk}
    {working : Location}
    {path : Path}
    {content : List UInt8}
    (success : disk.write working path content = .ok written) :
    written.read working path = .ok content := by
  obtain ⟨place, approached, namesFile, noDirectory, rfl⟩ := write_eq_ok success
  exact read_of_file
    (approach_of_keepsDirectories (disk.keepsDirectories_put noDirectory _) approached)
      namesFile
    (disk.node?_put_self (location_ne_nil place) _)

/-- A path that reads as a content leads to a file with that content. -/
theorem node?_of_read
    {disk : Disk}
    {working : Location}
    {path : Path}
    {place : Place}
    (approached : disk.approach working path = .ok place)
    (noDots : Path.isDots place.name = false)
    {content : List UInt8}
    (success : disk.read working path = .ok content) :
    disk.node? place.location = some (.file content) := by
  have isDirectory := (approach_eq_ok_iff.mp approached).2.2.1
  rw [read, locate, approached] at success
  simp only [enter_of_noDots noDots isDirectory] at success
  by_cases long : longestName < place.name.length
  · simp [long] at success
  cases found : disk.node? place.location with
  | none => simp [long, found] at success
  | some node =>
      simp only [long, found, Option.isSome_some, if_true, if_false] at success
      cases node with
      | directory => cases slash : place.slash <;> simp [slash, found] at success
      | file held => cases slash : place.slash <;> simp_all

/-- What it takes to move a file to a place, and what the disk is then. -/
theorem replace_eq_ok
    {disk replaced : Disk}
    {source : Location}
    {content : List UInt8}
    {target : Place}
    (noDots : Path.isDots target.name = false)
    (isDirectory : disk.node? target.directory = some .directory)
    (success : disk.replace source content target = .ok replaced) :
    NamesFile target ∧ disk.node? target.location ≠ some .directory ∧
      replaced = (disk.without source).put target.location (.file content) := by
  rw [replace, enter_of_noDots noDots isDirectory] at success
  by_cases long : longestName < target.name.length
  · simp [long] at success
  cases slash : target.slash with
  | true =>
      cases found : disk.node? target.location <;> simp [long, found, slash] at success
  | false =>
      refine ⟨⟨noDots, long, slash⟩, ?_⟩
      cases found : disk.node? target.location with
      | none =>
          simp only [long, found, slash, Option.isSome_none, Bool.false_eq_true,
            if_false] at success
          exact ⟨by simp, (Except.ok.inj success).symm⟩
      | some node =>
          simp only [long, found, slash, Option.isSome_some, Bool.false_eq_true, if_true,
            if_false] at success
          split at success
          · exact absurd success (by simp)
          · next noDirectory =>
              exact ⟨by simpa using noDirectory, (Except.ok.inj success).symm⟩

/-- What it takes to move a file, and what the disk is then. -/
theorem rename_eq_ok
    {disk renamed : Disk}
    {working : Location}
    {source target : Path}
    (success : disk.rename working source target = .ok renamed) :
    ∃ start goal content,
      disk.approach working source = .ok start ∧ Path.isDots start.name = false ∧
      disk.read working source = .ok content ∧
      disk.approach working target = .ok goal ∧ NamesFile goal ∧
      disk.node? goal.location ≠ some .directory ∧
      renamed = (disk.without start.location).put goal.location (.file content) := by
  rw [rename] at success
  split at success
  · exact absurd success (by simp)
  · exact absurd success (by simp)
  next start goal approachedStart approachedGoal =>
    split at success
    · exact absurd success (by simp)
    next plain =>
      simp only [Bool.or_eq_true, not_or, Bool.not_eq_true] at plain
      split at success
      · exact absurd success (by simp)
      next content readSource =>
        have isDirectory := (approach_eq_ok_iff.mp approachedGoal).2.2.1
        obtain ⟨namesFile, noDirectory, isRenamed⟩ :=
          replace_eq_ok plain.2 isDirectory success
        exact ⟨start, goal, content, approachedStart, plain.1, readSource, approachedGoal,
          namesFile, noDirectory, isRenamed⟩

/-- A file can be moved to wherever a file can be written. -/
theorem rename_of_namesFile
    {disk : Disk}
    {working : Location}
    {source target : Path}
    {start goal : Place}
    {content : List UInt8}
    (approachedStart : disk.approach working source = .ok start)
    (noDots : Path.isDots start.name = false)
    (readSource : disk.read working source = .ok content)
    (approachedGoal : disk.approach working target = .ok goal)
    (namesFile : NamesFile goal)
    (noDirectory : disk.node? goal.location ≠ some .directory) :
    disk.rename working source target =
      .ok ((disk.without start.location).put goal.location (.file content)) := by
  have isDirectory := (approach_eq_ok_iff.mp approachedGoal).2.2.1
  rw [rename, approachedStart, approachedGoal]
  simp only [noDots, namesFile.noDots, Bool.or_self, Bool.false_eq_true, if_false,
    readSource, replace, enter_of_noDots namesFile.noDots isDirectory, namesFile.short,
    namesFile.noSlash]
  cases found : disk.node? goal.location with
  | none => simp
  | some node =>
      have isFile : (some node == some Node.directory) = false := by
        rw [← found]
        exact beq_false_of_ne noDirectory
      simp only [Option.isSome_some, if_true, found, isFile, Bool.false_eq_true, if_false]

/-- A file that was moved onto a path is read there. -/
theorem read_of_rename
    {disk renamed : Disk}
    {working : Location}
    {source target : Path}
    (success : disk.rename working source target = .ok renamed)
    {content : List UInt8}
    (readSource : disk.read working source = .ok content) :
    renamed.read working target = .ok content := by
  obtain ⟨start, goal, held, approachedStart, noDots, readHeld, approachedGoal, namesFile,
    noDirectory, rfl⟩ := rename_eq_ok success
  obtain rfl : held = content := Except.ok.inj (readHeld.symm.trans readSource)
  have isFile := node?_of_read approachedStart noDots readSource
  have keeps := disk.keepsDirectories_move (by rw [isFile]; simp) noDirectory (.file held)
  exact read_of_file (approach_of_keepsDirectories keeps approachedGoal) namesFile
    (node?_put_self _ (location_ne_nil goal) _)

end Disk
end Storage
end FlemishDesk
