import FlemishDesk.Proofs.Watch.Alone
import FlemishDesk.Proofs.Watch.Durability

/-!
# Operations on a disk that fails

Whether a memory can be saved is up to the disk, and any change to it may fail for a
reason of its own.  A step that saves goes any way that saving can take, and every other
step is as it was.  The path of the file holds what it held until the file is replaced
by the whole new text.
-/

namespace FlemishDesk
namespace Watch

/-! ## The file that keeps the memory -/

namespace Store

open Storage

variable {store : Store} {stamp : Stamp} {memory : Memory} {disk before left : Disk}
  {phase : SavePhase}

/-- A file that could be read before saving holds what it held. -/
theorem Prepared.read
    (prepared : store.Prepared stamp disk left)
    {content : List UInt8}
    (found : disk.read store.workingDirectory store.path = .ok content) :
    left.read store.workingDirectory store.path = .ok content := by
  obtain ⟨location, located, isFile⟩ :=
    Disk.holds?_eq_some_iff.mp (Disk.read_eq_ok_iff.mp found)
  obtain ⟨made, makes, onlyTemporary⟩ := prepared
  have stillFile : made.node? location = some (.file content) := makes.kept _ _ isFile
  have stillLocated : made.locate store.workingDirectory store.path = .ok location := by
    obtain ⟨isPath, started, walked, fits⟩ := Disk.locate_eq_ok_iff.mp located
    exact Disk.locate_eq_ok_iff.mpr
      ⟨isPath, makes.kept _ _ started, makes.kept.walk walked,
      fun slash => makes.kept _ _ (fits slash)⟩
  apply Disk.read_eq_ok_iff.mpr
  apply Disk.holds?_eq_some_iff.mpr
  rcases onlyTemporary with rfl | ⟨place, approached, only⟩
  · exact ⟨location, stillLocated, stillFile⟩
  · have away : location ≠ place.location := location_ne_of_locate approached stillLocated
    exact ⟨location, only.locate stillLocated away,
      (only.elsewhere location away).trans stillFile⟩

/-- The disk is well-formed, and the path does not step back out of a missing
directory. -/
structure Steady (store : Store) (disk : Disk) : Prop where
  closed : disk.Closed
  noStepBack : ¬ disk.StepsBackFromMissing store.workingDirectory store.path

/-- Where the directory of the file can be reached, the path steps back out of
nothing. -/
theorem not_stepsBackFromMissing_of_approach
    {place : Place}
    (approached :
      disk.approach store.workingDirectory (store.temporaryPath stamp) = .ok place) :
    ¬ disk.StepsBackFromMissing store.workingDirectory store.path := by
  rintro ⟨before, behind, parts, missing⟩
  have missingStep := Disk.walk_withoutDots_missing missing
  have isSteps : Path.steps store.path =
      Path.withoutDots before ++ [dot, dot] :: Path.withoutDots behind := by
    rw [Path.steps, parts, Path.withoutDots_append,
      Path.withoutDots_cons_of_ne (by decide)]
  rcases store.steps_path with ⟨noSteps, _⟩ | ⟨sameRoot, last, _, isConcat⟩
  · rw [isSteps] at noSteps
    exact absurd noSteps (by simp)
  · -- What comes before the double dot leads to the directory of the file or to one
    -- above it.
    have isStart : Path.withoutDots before <+: Path.steps store.directoryPath := by
      have whole : Path.withoutDots before <+: Path.steps store.directoryPath ++ [last] :=
        isConcat ▸ isSteps ▸ List.prefix_append _ _
      refine (List.prefix_concat_iff.mp whole).resolve_left ?_
      intro all
      have sameLength :=
        congrArg List.length (isSteps.symm.trans (isConcat.trans all.symm))
      simp at sameLength
    obtain ⟨others, isSteps⟩ := isStart
    have walked := walk_of_approach_temporaryPath approached
    rw [Disk.origin, sameRoot, ← isSteps] at walked
    obtain ⟨middle, reached, _⟩ := Disk.walk_append_eq_ok_iff.mp walked
    exact absurd (reached.symm.trans missingStep) (by simp)

theorem Prepared.steady
    (prepared : store.Prepared stamp disk left)
    (steady : store.Steady disk) :
    store.Steady left := by
  obtain ⟨made, makes, rfl | ⟨place, approached, only⟩⟩ := prepared
  · exact ⟨makes.closed steady.closed,
      makes.not_stepsBackFromMissing steady.closed store.above_directoryPath
        steady.noStepBack⟩
  · have isDirectory := (Disk.approach_eq_ok_iff.mp approached).2.2.1
    refine ⟨only.closed (makes.closed steady.closed) isDirectory, ?_⟩
    exact not_stepsBackFromMissing_of_approach
      (Disk.approach_of_keepsDirectories only.keepsDirectories approached)

/-- What the path holds is there to stay until it is replaced: it is a file that can be
read, or the path is steady. -/
def Lasting (store : Store) (disk : Disk) : Prop :=
  (∃ content, disk.read store.workingDirectory store.path = .ok content) ∨
    store.Steady disk

/-- As long as the file has not been replaced, the path holds what it held. -/
theorem Prepared.lasting
    (prepared : store.Prepared stamp disk left)
    (lasting : store.Lasting disk) :
    left.holds? store.workingDirectory store.path =
        disk.holds? store.workingDirectory store.path ∧
      store.Lasting left := by
  rcases lasting with ⟨content, found⟩ | steady
  · have still := prepared.read found
    refine ⟨?_, .inl ⟨content, still⟩⟩
    rw [Disk.read_eq_ok_iff.mp still, Disk.read_eq_ok_iff.mp found]
  · exact ⟨prepared.holds? steady.closed steady.noStepBack, .inr (prepared.steady steady)⟩

/-- Wherever saving is cut short, the path holds what it held or the whole new text. -/
theorem Progress.lasting
    (progress : store.Progress stamp memory disk phase before)
    (cutShort : store.CutShort stamp memory phase before left)
    (lasting : store.Lasting disk) :
    (left.holds? store.workingDirectory store.path =
        disk.holds? store.workingDirectory store.path ∧ store.Lasting left) ∨
      left.read store.workingDirectory store.path =
        .ok (Text.Utf8.bytes memory.fileText) := by
  by_cases finished : phase = .ended (.ok ())
  · subst finished
    exact .inr (Disk.read_eq_ok_iff.mpr (progress.holds? cutShort))
  · exact .inl ((progress.prepared cutShort finished).lasting lasting)

/-- A file keeps the memory that the path holds. -/
theorem kept_congr
    (same : left.holds? store.workingDirectory store.path =
      disk.holds? store.workingDirectory store.path) :
    store.kept left = store.kept disk := by
  have sameRead (content : List UInt8) :
      left.read store.workingDirectory store.path = .ok content ↔
        disk.read store.workingDirectory store.path = .ok content := by
    rw [Disk.read_eq_ok_iff, Disk.read_eq_ok_iff, same]
  unfold kept
  congr 1
  cases found : disk.read store.workingDirectory store.path with
  | ok content => rw [(sameRead content).mpr found]
  | error reason =>
      cases foundLeft : left.read store.workingDirectory store.path with
      | ok content =>
          exact absurd (found.symm.trans ((sameRead content).mp foundLeft)) (by simp)
      | error other => rfl

end Store

/-! ## Steps -/

/-- What a step of the operation with a number can do, however saving ends. -/
inductive Act {σ : Type} (setup : Setup σ) (tag : Nat) :
    Operation -> World σ -> Operation -> World σ -> Prop where
  /-- A step that saves nothing. -/
  | plain {operation world} (other : operation.isSaving = false) :
      Act setup tag operation world (step setup tag operation world).1
        (step setup tag operation world).2
  /-- A check has tried to save the memory. -/
  | saveForCheck {force outcome world result left}
      (progress :
        setup.store.Progress setup.stamp world.memory world.disk (.ended result) left) :
      Act setup tag (.check force (.saving outcome)) world
        (.check force (.unlocking (recorded outcome result))) { world with disk := left }
  /-- A switch has tried to save the memory. -/
  | saveForToggle {world result left}
      (progress :
        setup.store.Progress setup.stamp world.memory world.disk (.ended result) left) :
      Act setup tag (.toggle .saving) world
        (.toggle (.unlocking (result.map fun _ => world.memory.mentionEveryone)))
        { world with disk := left }

section Steps

variable {σ : Type} {setup : Setup σ} {tag : Nat} {operation next : Operation}
  {world changed : World σ}

attribute [local irreducible] Store.save

/-- A step takes one of the ways that it can take. -/
theorem act_step (setup : Setup σ) (tag : Nat) (operation : Operation) (world : World σ) :
    Act setup tag operation world (step setup tag operation world).1
      (step setup tag operation world).2 := by
  by_cases saves : operation.isSaving = true
  · have progress := setup.store.progress_save setup.stamp world.memory world.disk
    unfold Operation.isSaving at saves
    split at saves
    · unfold step checkStep World.save
      dsimp only
      cases saved : setup.store.save setup.stamp world.memory world.disk with
      | mk result left =>
          rw [saved] at progress
          cases result with
          | ok _ => exact .saveForCheck progress
          | error error => exact .saveForCheck progress
    · unfold step toggleStep World.save
      dsimp only
      cases saved : setup.store.save setup.stamp world.memory world.disk with
      | mk result left =>
          rw [saved] at progress
          cases result with
          | ok _ => exact .saveForToggle progress
          | error error => exact .saveForToggle progress
    · nomatch saves
  · exact .plain (Bool.eq_false_iff.mpr saves)

end Steps

end Watch
end FlemishDesk
