import FlemishDesk.Proofs.Storage.Directories

/-!
# Changes that are cut short

A change to a disk may fail, or the process may end in the middle of it.  Directories
are then made in part, and a file may hold the beginning of what was to be written;
moving and removing a file happen at once or not at all.  A change at one location
leaves alone what every path holds that leads elsewhere.
-/

namespace FlemishDesk
namespace Storage
namespace Disk

variable {disk left before after : Disk} {working location spot : Location} {path : Path}

/-- What a change can leave when it fails or the process ends in the middle of it. -/
inductive Leaves (working : Location) (disk : Disk) : Action -> Disk -> Prop where
  /-- Nothing has been changed yet. -/
  | nothing (action : Action) : Leaves working disk action disk
  /-- Some of the directories have been made. -/
  | directories
      {path : Path}
      {left : Disk}
      (makes : Makes working (Path.ancestors path) disk left) :
      Leaves working disk (.createDirectories path) left
  /-- The file holds a beginning of what is to be written. -/
  | beginning
      {path : Path}
      {content part : List UInt8}
      {left : Disk}
      (isBeginning : part <+: content)
      (written : disk.write working path part = .ok left) :
      Leaves working disk (.write path content) left

/-! ## What each change leaves -/

theorem Leaves.of_createDirectories
    (leaves : Leaves working disk (.createDirectories path) left) :
    Makes working (Path.ancestors path) disk left := by
  cases leaves with
  | nothing => exact .nothing
  | directories makes => exact makes

theorem Leaves.of_write
    {content : List UInt8}
    (leaves : Leaves working disk (.write path content) left) :
    left = disk ∨ ∃ part, part <+: content ∧ disk.write working path part = .ok left := by
  cases leaves with
  | nothing => exact Or.inl rfl
  | beginning isBeginning written => exact Or.inr ⟨_, isBeginning, written⟩

theorem Leaves.of_rename
    {source target : Path}
    (leaves : Leaves working disk (.rename source target) left) :
    left = disk := by
  cases leaves with
  | nothing => rfl

theorem Leaves.of_remove (leaves : Leaves working disk (.remove path) left) :
    left = disk := by
  cases leaves with
  | nothing => rfl

/-! ## What changes do -/

theorem settle_eq_ok
    {result : Except Error Disk}
    (success : disk.settle result = (.ok (), left)) :
    result = .ok left := by
  cases result with
  | error reason => cases (Prod.mk.inj success).1
  | ok changed => exact congrArg Except.ok (Prod.mk.inj success).2

theorem write_of_perform
    {content : List UInt8}
    (performed : disk.perform working (.write path content) = (.ok (), left)) :
    disk.write working path content = .ok left :=
  settle_eq_ok performed

theorem rename_of_perform
    {source target : Path}
    (performed : disk.perform working (.rename source target) = (.ok (), left)) :
    disk.rename working source target = .ok left :=
  settle_eq_ok performed

theorem remove_of_perform
    (performed : disk.perform working (.remove path) = (.ok (), left)) :
    disk.remove working path = .ok left :=
  settle_eq_ok performed

/-- Making directories makes some of them, whether it succeeds or not. -/
theorem makes_of_perform
    {result : Except Error Unit}
    (performed : disk.perform working (.createDirectories path) = (result, left)) :
    Makes working (Path.ancestors path) disk left := by
  have makes := disk.makes_createDirectories working path
  rw [show disk.createDirectories working path = (result, left) from performed] at makes
  exact makes

theorem settle_eq_error
    {result : Except Error Disk}
    {reason : Error}
    (failed : disk.settle result = (.error reason, left)) :
    left = disk := by
  cases result with
  | error reason => exact (Prod.mk.inj failed).2.symm
  | ok changed => cases (Prod.mk.inj failed).1

/-- A change that fails leaves what it can leave. -/
theorem leaves_of_perform
    {action : Action}
    {reason : Error}
    (failed : disk.perform working action = (.error reason, left)) :
    Leaves working disk action left := by
  cases action with
  | createDirectories path => exact .directories (makes_of_perform failed)
  | write path content =>
      rw [settle_eq_error failed]
      exact .nothing _
  | rename source target =>
      rw [settle_eq_error failed]
      exact .nothing _
  | remove path =>
      rw [settle_eq_error failed]
      exact .nothing _

/-! ## Changes at one location -/

/-- Two disks differ at most in what stands at one location, which is a directory on
neither. -/
structure OnlyAt (spot : Location) (before after : Disk) : Prop where
  /-- The same stands everywhere else. -/
  elsewhere : ∀ location, location ≠ spot -> after.node? location = before.node? location
  /-- The location is no directory before. -/
  noDirectoryBefore : before.node? spot ≠ some .directory
  /-- The location is no directory after. -/
  noDirectoryAfter : after.node? spot ≠ some .directory

theorem OnlyAt.symm (only : OnlyAt spot before after) : OnlyAt spot after before :=
  ⟨fun location different => (only.elsewhere location different).symm,
  only.noDirectoryAfter,
    only.noDirectoryBefore⟩

theorem OnlyAt.keepsDirectories (only : OnlyAt spot before after) :
    KeepsDirectories before after := by
  intro location isDirectory
  rw [only.elsewhere location]
  · exact isDirectory
  · rintro rfl
    exact only.noDirectoryBefore isDirectory

/-- A disk is still well-formed after a change in one of its directories. -/
theorem OnlyAt.closed
    {name : Name}
    (only : OnlyAt (location ++ [name]) before after)
    (closed : before.Closed)
    (isDirectory : before.node? location = some .directory) :
    after.Closed := by
  intro other last stands
  apply only.keepsDirectories
  by_cases here : other ++ [last] = location ++ [name]
  · rw [(List.append_inj' here rfl).1]
    exact isDirectory
  · rw [only.elsewhere _ here] at stands
    exact closed other last stands

/-- A path that leads elsewhere still does. -/
theorem OnlyAt.locate
    (only : OnlyAt spot before after)
    (located : before.locate working path = .ok location)
    (away : location ≠ spot) :
    after.locate working path = .ok location := by
  obtain ⟨place, approached, entered, fits⟩ := locate_eq_ok_iff_enter.mp located
  obtain ⟨isDirectory, leads⟩ := enter_eq_ok_iff.mp entered
  have same := only.elsewhere location away
  refine locate_eq_ok_iff_enter.mpr
    ⟨place, approach_of_keepsDirectories only.keepsDirectories approached, ?_,
      same.symm ▸ fits⟩
  exact enter_eq_ok_iff.mpr ⟨only.keepsDirectories _ isDirectory, same.symm ▸ leads⟩

/-- What a path holds that leads elsewhere on both disks. -/
theorem OnlyAt.holds?
    (only : OnlyAt spot before after)
    (awayBefore : before.locate working path ≠ .ok spot)
    (awayAfter : after.locate working path ≠ .ok spot) :
    after.holds? working path = before.holds? working path := by
  apply holds?_congr
  · intro location
    constructor
    · intro located
      exact only.symm.locate located fun here => awayAfter (here ▸ located)
    · intro located
      exact only.locate located fun here => awayBefore (here ▸ located)
  · intro location located
    exact only.elsewhere location fun here => awayBefore (here ▸ located)

/-- Writing a file changes the disk at its location only. -/
theorem onlyAt_of_write
    {content : List UInt8}
    (written : disk.write working path content = .ok left) :
    ∃ place, disk.approach working path = .ok place ∧
      OnlyAt place.location disk left := by
  obtain ⟨place, approached, _, noDirectory, rfl⟩ := write_eq_ok written
  refine ⟨place, approached, fun location different => disk.node?_put_of_ne different _,
    noDirectory, ?_⟩
  rw [disk.node?_put_self (location_ne_nil place)]
  simp

/-- What is removed is what stands where the path leads. -/
theorem remove_eq_ok (removed : disk.remove working path = .ok left) :
    ∃ location, disk.locate working path = .ok location ∧
      left = disk.without location := by
  rw [remove] at removed
  split at removed
  · cases removed
  next location located =>
    split at removed
    · cases removed
    · exact ⟨location, located, (Except.ok.inj removed).symm⟩

/-- Writing a file and removing it changes the disk at its location only. -/
theorem onlyAt_of_write_remove
    {written : Disk}
    {content : List UInt8}
    (success : disk.write working path content = .ok written)
    (removed : written.remove working path = .ok left) :
    ∃ place, disk.approach working path = .ok place ∧
      OnlyAt place.location disk left := by
  obtain ⟨place, approached, namesFile, noDirectory, rfl⟩ := write_eq_ok success
  obtain ⟨location, located, rfl⟩ := remove_eq_ok removed
  have stillApproached := approach_of_keepsDirectories
    (disk.keepsDirectories_put noDirectory (.file content)) approached
  obtain ⟨again, approachedAgain, entered, _⟩ := locate_eq_ok_iff_enter.mp located
  obtain rfl := Except.ok.inj (stillApproached.symm.trans approachedAgain)
  have isLocation : location = place.location := by
    rw [enter_of_noDots namesFile.noDots (node?_of_enter entered), if_neg namesFile.short,
      disk.node?_put_self (location_ne_nil place)] at entered
    exact (Except.ok.inj entered).symm
  subst isLocation
  refine ⟨place, approached, fun location different => ?_, noDirectory, ?_⟩
  · rw [node?_without_of_ne _ different, disk.node?_put_of_ne different]
  · rw [node?_without_self _ (location_ne_nil place)]
    simp

end Disk
end Storage
end FlemishDesk
