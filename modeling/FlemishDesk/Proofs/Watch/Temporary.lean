import FlemishDesk.Proofs.Number.Digits
import FlemishDesk.Proofs.Storage.Directories
import FlemishDesk.Proofs.Text.Validity
import FlemishDesk.Watch.Store

/-!
# The temporary file beside the file

The temporary file lies in the directory of the file, under a name that is longer than
that of the file, and that is a text where the name of the file is none.  So it is never
where the path of the file leads, on any disk, also when that path ends in dots and
names no file at all.
-/

namespace FlemishDesk
namespace Watch
namespace Store

open Storage

variable (store : Store) (stamp : Stamp)

/-! ## Names -/

/-- The name of the file in bytes. -/
def fileBytes : Name :=
  Text.Utf8.bytes store.fileName

/-- The name of the temporary file in bytes. -/
def temporaryBytes : Name :=
  Text.Utf8.bytes (store.temporaryName stamp)

theorem slash_not_mem_fileBytes : slash ∉ store.fileBytes := by
  rw [fileBytes, fileName, Path.fileName?_eq]
  split
  · decide
  · cases reads : Text.Utf8.text? (Path.lastName store.path) with
    | none =>
        rw [Option.bind_some, reads]
        decide
    | some text =>
        rw [Option.bind_some, reads, Option.getD_some,
          Text.Utf8.text?_eq_some_iff.mp reads]
        exact Path.slash_not_mem_lastName store.path

theorem temporaryBytes_eq :
    store.temporaryBytes stamp =
      Text.Utf8.bytes ".tmp-" ++ store.fileBytes ++ Text.Utf8.bytes "-" ++
        Text.Utf8.bytes (Number.natText stamp.process) ++ Text.Utf8.bytes "-" ++
        Text.Utf8.bytes (Number.natText stamp.milliseconds) := by
  simp only [temporaryBytes, temporaryName, fileBytes, Text.Utf8.bytes_append]

theorem slash_not_mem_temporaryBytes : slash ∉ store.temporaryBytes stamp := by
  have inNumber (n : Nat) : slash ∉ Text.Utf8.bytes (Number.natText n) := by
    intro present
    have isChar := (Text.Utf8.mem_encode_iff (c := '/') (by decide) _).mp present
    exact Number.not_mem_natText (by decide) n isChar
  have inStart : slash ∉ Text.Utf8.bytes ".tmp-" := by decide
  have inMark : slash ∉ Text.Utf8.bytes "-" := by decide
  simp only [temporaryBytes_eq, List.mem_append, inStart, inMark, inNumber,
    slash_not_mem_fileBytes, or_self, not_false_eq_true]

/-- The temporary name is longer than the name of the file, and than dots. -/
theorem temporaryBytes_ne
    {name : Name}
    (short : name.length ≤ store.fileBytes.length + 2) :
    store.temporaryBytes stamp ≠ name := by
  intro same
  have longer : store.fileBytes.length + 2 < (store.temporaryBytes stamp).length := by
    have start : (Text.Utf8.bytes ".tmp-").length = 5 := by decide
    simp only [temporaryBytes_eq, List.length_append, start]
    omega
  rw [same] at longer
  omega

/-- What the last name of the path of the file can be: a double dot, the name of the
file, or bytes that are no text. -/
def IsLast (last : Name) : Prop :=
  last = [dot, dot] ∨ last = store.fileBytes ∨ Text.Utf8.text? last = none

theorem temporaryBytes_ne_last {last : Name} (isLast : store.IsLast last) :
    store.temporaryBytes stamp ≠ last := by
  rcases isLast with rfl | rfl | noText
  · exact store.temporaryBytes_ne stamp (by simp)
  · exact store.temporaryBytes_ne stamp (by omega)
  · -- The temporary name is a text.
    rintro rfl
    rw [temporaryBytes, Text.Utf8.text?_bytes] at noText
    cases noText

theorem isDots_temporaryBytes : Path.isDots (store.temporaryBytes stamp) = false := by
  have noDot : store.temporaryBytes stamp ≠ [dot] :=
    store.temporaryBytes_ne stamp (by simp)
  have noDots : store.temporaryBytes stamp ≠ [dot, dot] :=
    store.temporaryBytes_ne stamp (by simp)
  simp [Path.isDots, noDot, noDots]

theorem names_temporaryPath :
    Path.names (store.temporaryPath stamp) =
      Path.names store.directoryPath ++ [store.temporaryBytes stamp] :=
  Path.names_below (store.temporaryBytes_ne stamp (by simp))
    (store.slash_not_mem_temporaryBytes stamp) _

theorem steps_temporaryPath :
    Path.steps (store.temporaryPath stamp) =
      Path.steps store.directoryPath ++ [store.temporaryBytes stamp] := by
  have noDots := store.isDots_temporaryBytes stamp
  simp only [Path.isDots, Bool.or_eq_false_iff, beq_eq_false_iff_ne] at noDots
  rw [Path.steps, names_temporaryPath, Path.withoutDots_append,
    Path.withoutDots_cons_of_ne noDots.1, Path.withoutDots_nil]
  rfl

theorem directoryPath_ne_nil : store.directoryPath ≠ [] := by
  rw [directoryPath]
  split
  · split
    · decide
    · next nonempty => simpa using nonempty
  · decide

/-- The temporary path starts where the path of the directory does. -/
theorem isAbsolute_temporaryPath :
    Path.isAbsolute (store.temporaryPath stamp) =
      Path.isAbsolute store.directoryPath := by
  rw [temporaryPath, Path.isAbsolute, Path.isAbsolute,
    Path.head?_below store.directoryPath_ne_nil]

theorem steps_lastName_path
    (nonempty : Path.lastName store.path ≠ [])
    (noDot : Path.lastName store.path ≠ [dot]) :
    ∃ last, store.IsLast last ∧ Path.steps (Path.lastName store.path) = [last] := by
  refine ⟨Path.lastName store.path, ?_, Path.steps_lastName nonempty noDot⟩
  by_cases dots : Path.lastName store.path = [dot, dot]
  · exact Or.inl dots
  · right
    cases reads : Text.Utf8.text? (Path.lastName store.path) with
    | none => exact Or.inr rfl
    | some text =>
        left
        rw [fileBytes, fileName, Path.fileName?_eq,
          if_neg (by simp [Path.isDots, nonempty, noDot, dots]), Option.bind_some, reads,
          Option.getD_some, Text.Utf8.text?_eq_some_iff.mp reads]

/-- The path of the file has one step more than that of its directory, unless it has
none. -/
theorem steps_path :
    (Path.steps store.path = [] ∧ store.directoryPath = [dot]) ∨
      Path.isAbsolute store.directoryPath = Path.isAbsolute store.path ∧
        ∃ last, store.IsLast last ∧
          Path.steps store.path = Path.steps store.directoryPath ++ [last] := by
  cases found : Path.parent? store.path with
  | none =>
      refine Or.inl ⟨Path.steps_of_parent?_eq_none found, ?_⟩
      rw [directoryPath, found]
  | some parent =>
      obtain ⟨nonempty, parts⟩ := Path.parent?_cases found
      have isSteps := Path.steps_of_parent? found
      have sameStart := Path.isAbsolute_of_parent? found
      rcases parts with ⟨_, rfl⟩ | ⟨front, _, isParent, noDot⟩
      · have isDirectory : store.directoryPath = [dot] := by
          rw [directoryPath, found]
          rfl
        by_cases noDot : Path.lastName store.path = [dot]
        · rw [noDot, Path.steps_nil, Path.steps_dot] at isSteps
          exact Or.inl ⟨isSteps, isDirectory⟩
        · obtain ⟨last, isLast, lastStep⟩ := store.steps_lastName_path nonempty noDot
          rw [isDirectory, ← sameStart]
          refine Or.inr ⟨rfl, last, isLast, ?_⟩
          rw [isSteps, lastStep, Path.steps_nil]
          exact congrArg (· ++ [last]) Path.steps_dot.symm
      · have hasParent : parent ≠ [] := by
          intro empty
          have sameHead := Path.head?_trimmed (front ++ [slash])
          rw [← isParent, empty] at sameHead
          simp at sameHead
        have isDirectory : store.directoryPath = parent := by
          rw [directoryPath, found]
          simp [hasParent]
        obtain ⟨last, isLast, lastStep⟩ := store.steps_lastName_path nonempty noDot
        rw [isDirectory]
        exact Or.inr ⟨sameStart, last, isLast, by rw [isSteps, lastStep]⟩

/-- The directories that are made for the file are those that its path lies in. -/
theorem above_directoryPath :
    Disk.Above store.path (Path.ancestors store.directoryPath) := by
  intro other listed nonempty
  obtain ⟨isStart, sameStart⟩ := Path.steps_of_mem_ancestors listed
  rcases store.steps_path with ⟨_, isDirectory⟩ | ⟨sameRoot, last, _, isSteps⟩
  · rw [isDirectory] at isStart
    exact absurd (List.prefix_nil.mp (Path.steps_dot ▸ isStart)) nonempty
  · rw [sameStart, sameRoot, isSteps]
    refine ⟨rfl, isStart.trans (List.prefix_append _ _), ?_⟩
    intro same
    have shorter := isStart.length_le
    rw [same, List.length_append, List.length_singleton] at shorter
    omega

/-! ## Places -/

variable {store stamp} {disk : Disk} {place : Place} {location : Location}

theorem name_of_approach_temporaryPath
    (approached :
      disk.approach store.workingDirectory (store.temporaryPath stamp) = .ok place) :
    place.name = store.temporaryBytes stamp := by
  rw [(Disk.approach_eq_ok_iff.mp approached).2.2.2, names_temporaryPath]
  exact List.getLastD_concat

/-- The temporary path leads to the directory of the file. -/
theorem walk_of_approach_temporaryPath
    (approached :
      disk.approach store.workingDirectory (store.temporaryPath stamp) = .ok place) :
    disk.walk (Disk.origin store.workingDirectory store.directoryPath)
      (Path.steps store.directoryPath) = .ok place.directory := by
  have isName := name_of_approach_temporaryPath approached
  obtain ⟨others, isSteps, walked⟩ := Disk.walk_steps_of_approach approached
    (isName ▸ store.isDots_temporaryBytes stamp)
  rw [steps_temporaryPath] at isSteps
  obtain ⟨isOthers, _⟩ := List.append_inj' isSteps (by simp only [List.length_singleton])
  rw [Disk.origin, isAbsolute_temporaryPath, ← isOthers] at walked
  exact walked

/-- On no disk is the temporary file where the path of the file leads. -/
theorem location_ne_of_locate
    (approached :
      disk.approach store.workingDirectory (store.temporaryPath stamp) = .ok place)
    (located : disk.locate store.workingDirectory store.path = .ok location) :
    location ≠ place.location := by
  have toDirectory := walk_of_approach_temporaryPath approached
  have toFile := Disk.walk_withoutDots (Disk.locate_eq_ok_iff.mp located).2.2.1
  change disk.walk _ (Path.steps store.path) = _ at toFile
  rw [Place.location, name_of_approach_temporaryPath approached]
  rcases store.steps_path with ⟨noSteps, isDirectory⟩ | ⟨sameRoot, last, isLast, isSteps⟩
  · -- The path leads to where it starts, the temporary path into the working directory.
    rw [noSteps, Disk.walk_nil, Except.ok.injEq] at toFile
    rw [isDirectory, Path.steps_dot, Disk.walk_nil,
      Except.ok.injEq] at toDirectory
    rw [← toFile, ← toDirectory,
      show Disk.origin store.workingDirectory [dot] =
        store.workingDirectory from rfl, Disk.origin]
    split
    · simp
    · simp only [ne_eq, List.self_eq_append_right, List.cons_ne_nil, not_false_eq_true]
  · rw [Disk.origin, sameRoot] at toDirectory
    rw [isSteps, Disk.origin, Disk.walk_append_of_ok toDirectory] at toFile
    obtain ⟨next, entered, ended⟩ := Disk.walk_cons_eq_ok_iff.mp toFile
    obtain rfl := Except.ok.inj ended
    exact Disk.ne_of_enter entered (store.temporaryBytes_ne_last stamp isLast)

/-- The temporary path is another one than the path of the file. -/
theorem temporaryPath_ne_path : store.temporaryPath stamp ≠ store.path := by
  intro same
  have isSteps := store.steps_temporaryPath stamp
  rw [same] at isSteps
  rcases store.steps_path with ⟨noSteps, _⟩ | ⟨_, last, isLast, lastStep⟩
  · rw [noSteps] at isSteps
    simp at isSteps
  · rw [lastStep] at isSteps
    have sameName := List.append_cancel_left isSteps
    rw [List.cons.injEq] at sameName
    exact store.temporaryBytes_ne_last stamp isLast sameName.1.symm

end Store
end Watch
end FlemishDesk
