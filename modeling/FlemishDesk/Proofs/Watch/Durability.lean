import FlemishDesk.Proofs.Storage.Interruption
import FlemishDesk.Proofs.Watch.Saving
import FlemishDesk.Proofs.Watch.Temporary

/-!
# Saving that is cut short

Every change that saving makes may fail, for any reason, and the process may end at any
point, in the middle of a change too.  Until the temporary file has been moved, only
directories have been made and the temporary file has been written or removed, which is
never where the path of the file leads.  So the path holds what it held before, or the
whole new text.
-/

namespace FlemishDesk
namespace Watch
namespace Store

open Storage

/-- How far saving can come: every change succeeds, or it fails and leaves whatever it
can. -/
inductive Progress (store : Store) (stamp : Stamp) (memory : Memory) (disk : Disk) :
    SavePhase -> Disk -> Prop where
  /-- No change has been made yet. -/
  | start : Progress store stamp memory disk .makingDirectory disk
  /-- The change of a phase has been made. -/
  | success
      {phase : SavePhase}
      {before after : Disk}
      {action : Disk.Action}
      (earlier : Progress store stamp memory disk phase before)
      (isAction : phase.action? store stamp memory = some action)
      (performed : before.perform store.workingDirectory action = (.ok (), after)) :
      Progress store stamp memory disk (phase.afterSuccess store) after
  /-- The change of a phase has failed. -/
  | failure
      {phase : SavePhase}
      {before left : Disk}
      {action : Disk.Action}
      (reason : Storage.Error)
      (earlier : Progress store stamp memory disk phase before)
      (isAction : phase.action? store stamp memory = some action)
      (leaves : before.Leaves store.workingDirectory action left) :
      Progress store stamp memory disk (phase.afterFailure store stamp reason) left

/-- What is on the disk when the process ends in a phase: before its change, or in the
middle of it. -/
def CutShort (store : Store) (stamp : Stamp) (memory : Memory) (phase : SavePhase)
    (disk left : Disk) : Prop :=
  left = disk ∨ ∃ action, phase.action? store stamp memory = some action ∧
    disk.Leaves store.workingDirectory action left

variable {store : Store} {stamp : Stamp} {memory : Memory} {disk before left : Disk}
  {phase : SavePhase}

/-! ## Saving itself -/

theorem Progress.saveStep (progress : store.Progress stamp memory disk phase before) :
    store.Progress stamp memory disk (store.saveStep stamp memory phase before).1
      (store.saveStep stamp memory phase before).2 := by
  rw [Store.saveStep]
  cases isAction : phase.action? store stamp memory with
  | none => exact progress
  | some action =>
      dsimp only
      split
      · next performed => exact progress.success isAction performed
      · next performed =>
          exact progress.failure _ isAction (Disk.leaves_of_perform performed)

theorem Progress.saveSteps
    (progress : store.Progress stamp memory disk phase before)
    (count : Nat) :
    store.Progress stamp memory disk (store.saveSteps stamp memory count phase before).1
      (store.saveSteps stamp memory count phase before).2 := by
  induction count generalizing phase before with
  | zero => exact progress
  | succ count inductionHypothesis =>
      rw [saveSteps_succ]
      exact inductionHypothesis progress.saveStep

/-- How many changes are left at most. -/
def SavePhase.changesLeft : SavePhase -> Nat
  | .makingDirectory => 4
  | .writing => 3
  | .replacing => 2
  | .removing _ => 1
  | .ended _ => 0

theorem changesLeft_afterSuccess (store : Store) (phase : SavePhase) :
    (phase.afterSuccess store).changesLeft ≤ phase.changesLeft - 1 := by
  cases phase <;> simp [SavePhase.afterSuccess, SavePhase.changesLeft]

theorem changesLeft_afterFailure
    (store : Store)
    (stamp : Stamp)
    (reason : Storage.Error)
    (phase : SavePhase) :
    (phase.afterFailure store stamp reason).changesLeft ≤ phase.changesLeft - 1 := by
  cases phase <;> simp [SavePhase.afterFailure, SavePhase.changesLeft]

theorem changesLeft_saveStep
    (store : Store)
    (stamp : Stamp)
    (memory : Memory)
    (phase : SavePhase)
    (disk : Disk) :
    (store.saveStep stamp memory phase disk).1.changesLeft ≤ phase.changesLeft - 1 := by
  rw [Store.saveStep]
  cases isAction : phase.action? store stamp memory with
  | none => cases phase <;> simp [SavePhase.action?, SavePhase.changesLeft] at isAction ⊢
  | some action =>
      dsimp only
      split
      · exact changesLeft_afterSuccess store phase
      · exact changesLeft_afterFailure store stamp _ phase

theorem changesLeft_saveSteps
    (store : Store)
    (stamp : Stamp)
    (memory : Memory)
    (count : Nat)
    (phase : SavePhase)
    (disk : Disk) :
    (store.saveSteps stamp memory count phase disk).1.changesLeft ≤
      phase.changesLeft - count := by
  induction count generalizing phase disk with
  | zero => exact Nat.le_refl _
  | succ count inductionHypothesis =>
      rw [saveSteps_succ]
      have step := store.changesLeft_saveStep stamp memory phase disk
      have others := inductionHypothesis (store.saveStep stamp memory phase disk).1
        (store.saveStep stamp memory phase disk).2
      omega

/-- Saving ends, and the way it ends is one of those that saving can take. -/
theorem progress_save (store : Store) (stamp : Stamp) (memory : Memory) (disk : Disk) :
    store.Progress stamp memory disk (.ended (store.save stamp memory disk).1)
      (store.save stamp memory disk).2 := by
  have progress := (Progress.start : store.Progress stamp memory disk _ _).saveSteps 4
  have noneLeft := store.changesLeft_saveSteps stamp memory 4 .makingDirectory disk
  cases steps : store.saveSteps stamp memory 4 .makingDirectory disk with
  | mk phase saved =>
      rw [steps] at progress noneLeft
      cases phase with
      | ended result =>
          rw [save_of_saveSteps steps]
          exact progress
      | makingDirectory => simp [SavePhase.changesLeft] at noneLeft
      | writing => simp [SavePhase.changesLeft] at noneLeft
      | replacing => simp [SavePhase.changesLeft] at noneLeft
      | removing reason => simp [SavePhase.changesLeft] at noneLeft

/-! ## Before the file is replaced -/

/-- Directories of the file have been made, and the temporary file, if anything else. -/
def Prepared (store : Store) (stamp : Stamp) (disk left : Disk) : Prop :=
  ∃ made,
    Disk.Makes store.workingDirectory (Path.ancestors store.directoryPath) disk made ∧
    (left = made ∨
      ∃ place,
        made.approach store.workingDirectory (store.temporaryPath stamp) = .ok place ∧
        Disk.OnlyAt place.location made left)

/-- The path does not lead to the temporary file after a change there either. -/
theorem locate_ne_of_onlyAt
    {made : Disk}
    {place : Place}
    (approached :
      made.approach store.workingDirectory (store.temporaryPath stamp) = .ok place)
    (only : Disk.OnlyAt place.location made left) :
    left.locate store.workingDirectory store.path ≠ .ok place.location := by
  intro located
  have stillApproached :=
    Disk.approach_of_keepsDirectories only.keepsDirectories approached
  exact location_ne_of_locate stillApproached located rfl

/-- Where the path leads, stands what stood there. -/
theorem Prepared.file
    (prepared : store.Prepared stamp disk left)
    {content : List UInt8}
    (success : left.read store.workingDirectory store.path = .ok content) :
    ∃ location, left.locate store.workingDirectory store.path = .ok location ∧
      disk.node? location = some (.file content) := by
  obtain ⟨location, located, isFile⟩ :=
    Disk.holds?_eq_some_iff.mp (Disk.read_eq_ok_iff.mp success)
  refine ⟨location, located, ?_⟩
  obtain ⟨made, makes, rfl | ⟨place, approached, only⟩⟩ := prepared
  · exact makes.file isFile
  · have away : location ≠ place.location := by
      rintro rfl
      exact locate_ne_of_onlyAt approached only located
    rw [only.elsewhere location away] at isFile
    exact makes.file isFile

/-- The path holds what it held. -/
theorem Prepared.holds?
    (prepared : store.Prepared stamp disk left)
    (closed : disk.Closed)
    (noStepBack : ¬ disk.StepsBackFromMissing store.workingDirectory store.path) :
    left.holds? store.workingDirectory store.path =
      disk.holds? store.workingDirectory store.path := by
  obtain ⟨made, makes, rfl | ⟨place, approached, only⟩⟩ := prepared
  · exact makes.holds? closed store.above_directoryPath noStepBack
  · have sameBefore :
        made.locate store.workingDirectory store.path ≠ .ok place.location :=
      fun located => location_ne_of_locate approached located rfl
    rw [only.holds? sameBefore (locate_ne_of_onlyAt approached only)]
    exact makes.holds? closed store.above_directoryPath noStepBack

/-! ## Phases -/

/-- What the disk is in a phase: the file is replaced in the last one only, by the whole
text. -/
def Stage (store : Store) (stamp : Stamp) (memory : Memory) (disk : Disk) :
    SavePhase -> Disk -> Prop
  | .makingDirectory, left => left = disk
  | .writing, left =>
      Disk.Makes store.workingDirectory (Path.ancestors store.directoryPath) disk left
  | .replacing, left | .removing _, left =>
      ∃ made,
        Disk.Makes store.workingDirectory (Path.ancestors store.directoryPath) disk made ∧
        made.write store.workingDirectory (store.temporaryPath stamp)
          (Text.Utf8.bytes memory.fileText) = .ok left
  | .ended (.ok _), left =>
      left.holds? store.workingDirectory store.path =
        some (.file (Text.Utf8.bytes memory.fileText))
  | .ended (.error _), left => store.Prepared stamp disk left

/-- In a phase that makes a change, the file has not been replaced, also when the change
is cut short. -/
theorem Stage.leaves
    (stage : store.Stage stamp memory disk phase before)
    {action : Disk.Action}
    (isAction : phase.action? store stamp memory = some action)
    (leaves : before.Leaves store.workingDirectory action left) :
    store.Prepared stamp disk left := by
  cases phase with
  | ended result => cases isAction
  | makingDirectory =>
      obtain rfl := Option.some.inj isAction
      obtain rfl : before = disk := stage
      exact ⟨left, leaves.of_createDirectories, Or.inl rfl⟩
  | writing =>
      obtain rfl := Option.some.inj isAction
      rcases leaves.of_write with rfl | ⟨part, _, written⟩
      · exact ⟨left, stage, Or.inl rfl⟩
      · exact ⟨before, stage, Or.inr (Disk.onlyAt_of_write written)⟩
  | replacing =>
      obtain rfl := Option.some.inj isAction
      obtain rfl := leaves.of_rename
      obtain ⟨made, makes, written⟩ := stage
      exact ⟨made, makes, Or.inr (Disk.onlyAt_of_write written)⟩
  | removing reason =>
      obtain rfl := Option.some.inj isAction
      obtain rfl := leaves.of_remove
      obtain ⟨made, makes, written⟩ := stage
      exact ⟨made, makes, Or.inr (Disk.onlyAt_of_write written)⟩

/-- What the disk is after a change that succeeded. -/
theorem Stage.success
    (stage : store.Stage stamp memory disk phase before)
    {action : Disk.Action}
    (isAction : phase.action? store stamp memory = some action)
    {after : Disk}
    (performed : before.perform store.workingDirectory action = (.ok (), after)) :
    store.Stage stamp memory disk (phase.afterSuccess store) after := by
  cases phase with
  | ended result => cases isAction
  | makingDirectory =>
      obtain rfl := Option.some.inj isAction
      obtain rfl : before = disk := stage
      exact Disk.makes_of_perform performed
  | writing =>
      obtain rfl := Option.some.inj isAction
      exact ⟨before, stage, Disk.write_of_perform performed⟩
  | replacing =>
      obtain rfl := Option.some.inj isAction
      obtain ⟨made, _, written⟩ := stage
      have renamed := Disk.rename_of_perform performed
      exact Disk.read_eq_ok_iff.mp
        (Disk.read_of_rename renamed (Disk.read_of_write written))
  | removing reason =>
      obtain rfl := Option.some.inj isAction
      obtain ⟨made, makes, written⟩ := stage
      have removed := Disk.remove_of_perform performed
      exact ⟨made, makes, Or.inr (Disk.onlyAt_of_write_remove written removed)⟩

/-- What the disk is after a change that failed. -/
theorem Stage.failure
    (stage : store.Stage stamp memory disk phase before)
    {action : Disk.Action}
    (isAction : phase.action? store stamp memory = some action)
    (reason : Storage.Error)
    (leaves : before.Leaves store.workingDirectory action left) :
    store.Stage stamp memory disk (phase.afterFailure store stamp reason) left := by
  cases phase with
  | ended result => cases isAction
  | makingDirectory => exact stage.leaves isAction leaves
  | writing => exact stage.leaves isAction leaves
  | replacing =>
      obtain rfl := Option.some.inj isAction
      obtain rfl := leaves.of_rename
      exact stage
  | removing first => exact stage.leaves isAction leaves

/-- Saving goes from one phase to the next. -/
theorem Progress.stage (progress : store.Progress stamp memory disk phase before) :
    store.Stage stamp memory disk phase before := by
  induction progress with
  | start => rfl
  | success _ isAction performed inductionHypothesis =>
      exact inductionHypothesis.success isAction performed
  | failure reason _ isAction leaves inductionHypothesis =>
      exact inductionHypothesis.failure isAction reason leaves

/-- Wherever saving is cut short before it has succeeded, the file has not been
replaced. -/
theorem Progress.prepared
    (progress : store.Progress stamp memory disk phase before)
    (cutShort : store.CutShort stamp memory phase before left)
    (unfinished : phase ≠ .ended (.ok ())) :
    store.Prepared stamp disk left := by
  have stage := progress.stage
  cases isAction : phase.action? store stamp memory with
  | some action =>
      rcases cutShort with rfl | ⟨cut, isCut, leaves⟩
      · exact stage.leaves isAction (.nothing action)
      · exact stage.leaves isCut leaves
  | none =>
      have unchanged : left = before := by
        rcases cutShort with same | ⟨cut, isCut, _⟩
        · exact same
        · cases isAction.symm.trans isCut
      subst unchanged
      cases phase with
      | ended result =>
          cases result with
          | ok done => exact absurd rfl unfinished
          | error error => exact stage
      | makingDirectory => cases isAction
      | writing => cases isAction
      | replacing => cases isAction
      | removing reason => cases isAction

/-- Saving that has succeeded has replaced the file by the whole text. -/
theorem Progress.holds?
    (progress : store.Progress stamp memory disk (.ended (.ok ())) before)
    (cutShort : store.CutShort stamp memory (.ended (.ok ())) before left) :
    left.holds? store.workingDirectory store.path =
      some (.file (Text.Utf8.bytes memory.fileText)) := by
  rcases cutShort with rfl | ⟨cut, isCut, _⟩
  · exact progress.stage
  · cases isCut

/-! ## Old or new -/

/-- Whatever changes fail and wherever saving is cut short, the path holds what it held
before, and when saving has succeeded, the whole new text.  A path that steps back out
of a missing directory may lead somewhere else once the directory is made, and even then
only complete files are found there.  The temporary file is never where the path
leads. -/
theorem save_holds_old_or_new
    (store : Store)
    (stamp : Stamp)
    (memory : Memory)
    (disk : Disk) :
    store.Progress stamp memory disk (.ended (store.save stamp memory disk).1)
      (store.save stamp memory disk).2 ∧
    (∀ phase before left,
      store.Progress stamp memory disk phase before ->
      store.CutShort stamp memory phase before left ->
      (phase = .ended (.ok ()) ->
        left.holds? store.workingDirectory store.path =
          some (.file (Text.Utf8.bytes memory.fileText))) ∧
      (phase ≠ .ended (.ok ()) ->
        (disk.Closed -> ¬ disk.StepsBackFromMissing store.workingDirectory store.path ->
          left.holds? store.workingDirectory store.path =
            disk.holds? store.workingDirectory store.path) ∧
        ∀ content, left.read store.workingDirectory store.path = .ok content ->
          ∃ location, left.locate store.workingDirectory store.path = .ok location ∧
            disk.node? location = some (.file content))) ∧
    store.temporaryPath stamp ≠ store.path ∧
    ∀ (other : Disk) place location,
      other.approach store.workingDirectory (store.temporaryPath stamp) = .ok place ->
      other.locate store.workingDirectory store.path = .ok location ->
      location ≠ place.location := by
  refine ⟨store.progress_save stamp memory disk, ?_, temporaryPath_ne_path, ?_⟩
  · intro phase before left progress cutShort
    constructor
    · rintro rfl
      exact progress.holds? cutShort
    · intro unfinished
      have prepared := progress.prepared cutShort unfinished
      exact ⟨prepared.holds?, fun content => prepared.file⟩
  · intro other place location
    exact location_ne_of_locate

/-- A path with a double dot leads to a file whose name is no text, when the process
ends after three bytes of the temporary file, and when saving succeeds. -/
theorem save_holds_old_or_new_torn_write :
    let path : Path := Path.ofText "d/../" ++ [0xFF]
    let store : Store := ⟨path, "42", false, []⟩
    let disk : Disk := [(.ofTexts ["d"], .directory), ([[0xFF]], .file [0x7B])]
    let memory : Memory := ⟨some (.number 5), "42", true⟩
    disk.Closed ∧ ¬ disk.StepsBackFromMissing [] path ∧
    disk.holds? [] path = some (.file [0x7B]) ∧
    store.temporaryPath ⟨1, 8⟩ = .ofText "d/../.tmp-state.json-1-8" ∧
    (∃ made left,
      store.Progress ⟨1, 8⟩ memory disk .writing made ∧
      made.write [] (store.temporaryPath ⟨1, 8⟩)
        ((Text.Utf8.bytes memory.fileText).take 3) =
        .ok left ∧
      left.holds? [] path = some (.file [0x7B])) ∧
    (store.save ⟨1, 8⟩ memory disk).2.holds? [] path =
      some (.file (Text.Utf8.bytes memory.fileText)) := by
  intro path store disk memory
  have closed : disk.Closed := by decide +kernel
  have noStepBack : ¬ disk.StepsBackFromMissing [] path := by decide +kernel
  have isOld : disk.holds? [] path = some (.file [0x7B]) := by decide +kernel
  have isTemporary : store.temporaryPath ⟨1, 8⟩ = .ofText "d/../.tmp-state.json-1-8" := by
    decide +kernel
  obtain ⟨saved, everywhere, _⟩ := save_holds_old_or_new store ⟨1, 8⟩ memory disk
  refine ⟨closed, noStepBack, isOld, isTemporary, ?_, ?_⟩
  · have makes :
        (disk.perform [] (.createDirectories store.directoryPath)).1.isOk = true := by
      decide +kernel
    have writes : ((disk.perform [] (.createDirectories store.directoryPath)).2.write []
        (store.temporaryPath ⟨1, 8⟩) ((Text.Utf8.bytes memory.fileText).take 3)).isOk =
          true := by
      decide +kernel
    generalize performed : disk.perform [] (.createDirectories store.directoryPath) =
      outcome
      at makes writes
    obtain ⟨result, made⟩ := outcome
    cases result with
    | error reason => cases makes
    | ok done =>
        dsimp only at writes
        generalize written : made.write [] (store.temporaryPath ⟨1, 8⟩)
          ((Text.Utf8.bytes memory.fileText).take 3) = outcome at writes
        cases outcome with
        | error reason => cases writes
        | ok left =>
            have progress : store.Progress ⟨1, 8⟩ memory disk .writing made :=
              Progress.start.success rfl performed
            have cutShort : store.CutShort ⟨1, 8⟩ memory .writing made left :=
              Or.inr ⟨_, rfl, .beginning (List.take_prefix 3 _) written⟩
            have kept :=
              ((everywhere _ _ _ progress cutShort).2 (by simp)).1 closed noStepBack
            exact ⟨made, left, progress, written, kept.trans isOld⟩
  · have succeeds : (store.save ⟨1, 8⟩ memory disk).1.isOk = true := by decide +kernel
    cases result : (store.save ⟨1, 8⟩ memory disk).1 with
    | error error =>
        rw [result] at succeeds
        cases succeeds
    | ok done =>
        rw [result] at saved
        exact (everywhere _ _ _ saved (Or.inl rfl)).1 rfl

/-- A path that steps back out of a missing directory leads to that directory itself
once it is made: saving fails, and a directory stands where nothing stood. -/
theorem save_leaves_directory_at_path :
    let path : Path := .ofText "x/../x"
    let store : Store := ⟨path, "42", false, []⟩
    let disk : Disk := []
    let saved := store.save ⟨1, 8⟩ ⟨some (.number 5), "42", false⟩ disk
    disk.Closed ∧ disk.StepsBackFromMissing [] path ∧
    disk.holds? [] path = none ∧ saved.1.isOk = false ∧
    saved.2.holds? [] path = some .directory := by
  decide +kernel

end Store
end Watch
end FlemishDesk
