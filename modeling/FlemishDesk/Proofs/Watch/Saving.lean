import FlemishDesk.Proofs.Json.RoundTrip
import FlemishDesk.Proofs.Storage.Files
import FlemishDesk.Watch.Store

/-!
# Saved memories

A memory that was saved is restored from the file.  Saving succeeds only when all of its
phases do, so that the file then holds the text of the memory, and the text is read back
field by field.
-/

namespace FlemishDesk
namespace Watch

namespace Memory

/-- The JSON form of a memory can be read back. -/
theorem fits_toJson (memory : Memory) : Json.Fits Json.maxDepth memory.toJson := by
  intro field present
  simp only [List.mem_cons, List.not_mem_nil, or_false] at present
  rcases present with rfl | rfl | rfl
  · cases memory.lastReleaseId with
    | none => simp [idJson, Json.Fits]
    | some id =>
        cases id with
        | number value =>
            rw [idJson, Release.Id.toJson, Json.Fits]
            exact value.toNat_lt
        | text value => simp [idJson, Release.Id.toJson, Json.Fits]
  · simp [Json.Fits]
  · simp [Json.Fits]

end Memory

namespace Store

/-- An optional identifier is read back from its JSON form. -/
theorem ofJson?_idJson (id : Option Release.Id) :
    Release.Id.ofJson? (Memory.idJson id) = id := by
  cases id with
  | none => rfl
  | some id =>
      cases id with
      | number value => simp [Memory.idJson, Release.Id.toJson, Release.Id.ofJson?]
      | text value => rfl

/-- A memory is restored from its JSON form, for the channel of the store. -/
theorem merge_toJson
    (store : Store)
    (memory : Memory) :
    store.merge (some memory.toJson) = { memory with channelId := store.channelId } := by
  have last : Json.lastField? "lastReleaseId"
      [("lastReleaseId", Memory.idJson memory.lastReleaseId),
        ("channelId", .string memory.channelId),
        ("mentionEveryone", .bool memory.mentionEveryone)] =
      some (Memory.idJson memory.lastReleaseId) := by
    simp [Json.lastField?]
  have mention : Json.lastField? "mentionEveryone"
      [("lastReleaseId", Memory.idJson memory.lastReleaseId),
        ("channelId", .string memory.channelId),
        ("mentionEveryone", .bool memory.mentionEveryone)] =
      some (.bool memory.mentionEveryone) := by
    simp [Json.lastField?]
  rw [Memory.toJson, merge, last, mention, Option.bind_some, Option.bind_some,
    ofJson?_idJson]
  rfl

/-- A memory is restored from the text of its file, for the channel of the store. -/
theorem restore_fileText
    (store : Store)
    (memory : Memory) :
    store.restore (some (Text.Utf8.bytes memory.fileText)) =
      { memory with channelId := store.channelId } := by
  rw [restore, Option.bind_some, Text.Utf8.text?_bytes, Option.bind_some, Memory.fileText,
    Json.read?_pretty memory.fits_toJson, store.merge_toJson memory]

/-- Whatever is restored is of the channel of the store. -/
theorem channelId_restore
    (store : Store)
    (content : Option (List UInt8)) :
    (store.restore content).channelId = store.channelId := by
  rw [restore, merge.eq_def]
  split <;> rfl

/-- Saving that has ended has ended. -/
@[simp] theorem saveSteps_ended
    (store : Store)
    (stamp : Stamp)
    (memory : Memory)
    (count : Nat)
    (result : Except Error Unit)
    (disk : Storage.Disk) :
    store.saveSteps stamp memory count (.ended result) disk = (.ended result, disk) := by
  induction count with
  | zero => rfl
  | succ count inductionHypothesis =>
      rw [saveSteps, saveStep, SavePhase.action?]
      exact inductionHypothesis

theorem saveSteps_succ
    (store : Store)
    (stamp : Stamp)
    (memory : Memory)
    (count : Nat)
    (phase : SavePhase)
    (disk : Storage.Disk) :
    store.saveSteps stamp memory (count + 1) phase disk =
      store.saveSteps stamp memory count (store.saveStep stamp memory phase disk).1
        (store.saveStep stamp memory phase disk).2 := by
  rw [saveSteps]

theorem saveStep_makingDirectory
    (store : Store)
    (stamp : Stamp)
    (memory : Memory)
    (disk : Storage.Disk) :
    store.saveStep stamp memory .makingDirectory disk =
      match disk.createDirectories store.workingDirectory store.directoryPath with
      | (.ok _, made) => (.writing, made)
      | (.error reason, made) =>
          (.ended (.error (.directory store.directoryPath reason)), made) := by
  rw [saveStep, SavePhase.action?]
  simp only [Storage.Disk.perform]
  cases disk.createDirectories store.workingDirectory store.directoryPath with
  | mk result made => cases result <;> rfl

theorem saveStep_writing
    (store : Store)
    (stamp : Stamp)
    (memory : Memory)
    (disk : Storage.Disk) :
    store.saveStep stamp memory .writing disk =
      match disk.write store.workingDirectory (store.temporaryPath stamp)
          (Text.Utf8.bytes memory.fileText) with
      | .ok written => (.replacing, written)
      | .error reason =>
          (.ended (.error (.write (store.temporaryPath stamp) reason)), disk) := by
  rw [saveStep, SavePhase.action?]
  simp only [Storage.Disk.perform]
  cases disk.write store.workingDirectory (store.temporaryPath stamp)
    (Text.Utf8.bytes memory.fileText) <;> rfl

theorem saveStep_replacing
    (store : Store)
    (stamp : Stamp)
    (memory : Memory)
    (disk : Storage.Disk) :
    store.saveStep stamp memory .replacing disk =
      match disk.rename store.workingDirectory (store.temporaryPath stamp) store.path with
      | .ok renamed => (.ended (.ok ()), renamed)
      | .error reason => (.removing reason, disk) := by
  rw [saveStep, SavePhase.action?]
  simp only [Storage.Disk.perform]
  cases disk.rename store.workingDirectory (store.temporaryPath stamp) store.path <;> rfl

/-- The temporary file is removed only to tell that the memory was not saved. -/
theorem saveStep_removing
    (store : Store)
    (stamp : Stamp)
    (memory : Memory)
    (reason : Storage.Error)
    (disk : Storage.Disk) :
    (store.saveStep stamp memory (.removing reason) disk).1 =
      .ended (.error (.replace store.path reason)) := by
  rw [saveStep, SavePhase.action?]
  simp only
  split <;> rfl

/-- Saving gives the result with which its phases end. -/
theorem save_of_saveSteps
    {store : Store}
    {stamp : Stamp}
    {memory : Memory}
    {disk saved : Storage.Disk}
    {result : Except Error Unit}
    (steps : store.saveSteps stamp memory 4 .makingDirectory disk =
      (.ended result, saved)) :
    store.save stamp memory disk = (result, saved) := by
  unfold save
  rw [steps]

/-- How saving ends: the first phase that fails decides, and a temporary file that could
not be moved is removed. -/
theorem save_cases
    (store : Store)
    (stamp : Stamp)
    (memory : Memory)
    (disk : Storage.Disk) :
    (∃ made reason,
      disk.createDirectories store.workingDirectory store.directoryPath =
        (.error reason, made) ∧
      store.save stamp memory disk =
        (.error (.directory store.directoryPath reason), made)) ∨
    (∃ made reason,
      disk.createDirectories store.workingDirectory store.directoryPath = (.ok (), made) ∧
      made.write store.workingDirectory (store.temporaryPath stamp)
        (Text.Utf8.bytes memory.fileText) = .error reason ∧
      store.save stamp memory disk =
        (.error (.write (store.temporaryPath stamp) reason), made)) ∨
    ∃ made written,
      disk.createDirectories store.workingDirectory store.directoryPath = (.ok (), made) ∧
      made.write store.workingDirectory (store.temporaryPath stamp)
        (Text.Utf8.bytes memory.fileText) = .ok written ∧
      ((∃ reason,
        written.rename store.workingDirectory (store.temporaryPath stamp) store.path =
          .error reason ∧
        store.save stamp memory disk =
          (.error (.replace store.path reason),
            (store.saveStep stamp memory (.removing reason) written).2)) ∨
      ∃ renamed,
        written.rename store.workingDirectory (store.temporaryPath stamp) store.path =
          .ok renamed ∧
        store.save stamp memory disk = (.ok (), renamed)) := by
  cases making : disk.createDirectories store.workingDirectory store.directoryPath with
  | mk result made =>
      cases result with
      | error reason =>
          refine .inl ⟨made, reason, rfl, save_of_saveSteps ?_⟩
          rw [saveSteps_succ, saveStep_makingDirectory, making, saveSteps_ended]
      | ok _ =>
          right
          cases writing : made.write store.workingDirectory (store.temporaryPath stamp)
              (Text.Utf8.bytes memory.fileText) with
          | error reason =>
              refine .inl ⟨made, reason, rfl, writing, save_of_saveSteps ?_⟩
              rw [saveSteps_succ, saveStep_makingDirectory, making, saveSteps_succ,
                saveStep_writing, writing, saveSteps_ended]
          | ok written =>
              refine .inr ⟨made, written, rfl, writing, ?_⟩
              cases replacing : written.rename store.workingDirectory
                  (store.temporaryPath stamp) store.path with
              | error reason =>
                  refine .inl ⟨reason, rfl, save_of_saveSteps ?_⟩
                  rw [saveSteps_succ, saveStep_makingDirectory, making, saveSteps_succ,
                    saveStep_writing, writing, saveSteps_succ, saveStep_replacing,
                      replacing,
                    saveSteps_succ, saveStep_removing, saveSteps_ended]
              | ok renamed =>
                  refine .inr ⟨renamed, rfl, save_of_saveSteps ?_⟩
                  rw [saveSteps_succ, saveStep_makingDirectory, making, saveSteps_succ,
                    saveStep_writing, writing, saveSteps_succ, saveStep_replacing,
                      replacing,
                    saveSteps_ended]

/-- The file of a memory that was saved holds its text. -/
theorem read_of_save
    {store : Store}
    {stamp : Stamp}
    {memory : Memory}
    {disk saved : Storage.Disk}
    (success : store.save stamp memory disk = (.ok (), saved)) :
    saved.read store.workingDirectory store.path =
      .ok (Text.Utf8.bytes memory.fileText) := by
  rcases store.save_cases stamp memory disk with
    ⟨_, _, _, failed⟩ | ⟨_, _, _, _, failed⟩ |
      ⟨made, written, _, wrote, ⟨_, _, failed⟩ | ⟨renamed, moved, succeeded⟩⟩
  · exact absurd (Prod.mk.inj (success.symm.trans failed)).1 (by simp)
  · exact absurd (Prod.mk.inj (success.symm.trans failed)).1 (by simp)
  · exact absurd (Prod.mk.inj (success.symm.trans failed)).1 (by simp)
  · rw [(Prod.mk.inj (success.symm.trans succeeded)).2]
    exact Storage.Disk.read_of_rename moved (Storage.Disk.read_of_write wrote)

/-- The memory that the file on a disk keeps. -/
def kept (store : Store) (disk : Storage.Disk) : Memory :=
  store.restore (disk.read store.workingDirectory store.path).toOption

/-- A file that holds the text of a memory keeps all of it but the channel. -/
theorem kept_eq_of_read
    {store : Store}
    {memory : Memory}
    {disk : Storage.Disk}
    (stored : disk.read store.workingDirectory store.path =
      .ok (Text.Utf8.bytes memory.fileText)) :
    store.kept disk = { memory with channelId := store.channelId } := by
  rw [kept, stored]
  exact store.restore_fileText memory

/-- A file that holds the text of a memory of the channel keeps the memory. -/
theorem kept_of_read
    {store : Store}
    {memory : Memory}
    {disk : Storage.Disk}
    (ofChannel : memory.channelId = store.channelId)
    (stored : disk.read store.workingDirectory store.path =
      .ok (Text.Utf8.bytes memory.fileText)) :
    store.kept disk = memory := by
  rw [kept_eq_of_read stored, ← ofChannel]

/-- A memory that was loaded is of the channel, and the file holds its text. -/
theorem read_of_load
    {store : Store}
    {stamp : Stamp}
    {memory : Memory}
    {disk loaded : Storage.Disk}
    (success : store.load stamp disk = (.ok memory, loaded)) :
    memory.channelId = store.channelId ∧
      loaded.read store.workingDirectory store.path =
        .ok (Text.Utf8.bytes memory.fileText) := by
  unfold load at success
  dsimp only at success
  have ofChannel := store.channelId_restore
    (disk.read store.workingDirectory store.path).toOption
  generalize store.restore (disk.read store.workingDirectory store.path).toOption =
    restored
    at success ofChannel
  cases saving : store.save stamp restored disk with
  | mk result saved =>
      rw [saving] at success
      cases result with
      | error error => exact absurd (Prod.mk.inj success).1 (by simp)
      | ok _ =>
          obtain ⟨same, rfl⟩ := Prod.mk.inj success
          obtain rfl := Except.ok.inj same
          exact ⟨ofChannel, read_of_save saving⟩

end Store
end Watch
end FlemishDesk
