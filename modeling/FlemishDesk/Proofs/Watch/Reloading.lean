import FlemishDesk.Proofs.Watch.Saving

/-!
# Loading memories again

Whether a memory can be saved is a matter of the disk and not of the memory.  Where it
can, a memory of the channel that was saved is loaded again, and any file at all is
loaded as some memory of the channel.  What loading leaves in the file is a fixed point:
stores that differ only in what they assume about mentions load the same memory from it
and leave every byte in place.
-/

namespace FlemishDesk
namespace Watch
namespace Store

/-- Every change that saving makes to a disk succeeds: the directory is made, and a file
with any content can be written beside the file and moved onto it. -/
def Writable (store : Store) (stamp : Stamp) (disk : Storage.Disk) : Prop :=
  ∃ made,
    disk.createDirectories store.workingDirectory store.directoryPath = (.ok (), made) ∧
    ∀ content, ∃ written renamed,
      made.write store.workingDirectory (store.temporaryPath stamp) content =
        .ok written ∧
      written.rename store.workingDirectory (store.temporaryPath stamp) store.path =
        .ok renamed

/-- A memory is saved on a disk on which every change succeeds. -/
theorem save_of_writable
    {store : Store}
    {stamp : Stamp}
    {disk : Storage.Disk}
    (writable : store.Writable stamp disk)
    (memory : Memory) :
    ∃ saved, store.save stamp memory disk = (.ok (), saved) := by
  obtain ⟨made, making, changes⟩ := writable
  obtain ⟨written, renamed, writing, moving⟩ := changes (Text.Utf8.bytes memory.fileText)
  rcases store.save_cases stamp memory disk with
    ⟨_, _, failed, _⟩ | ⟨_, _, made', failed, _⟩ |
      ⟨_, written', made', wrote, ⟨_, failed, _⟩ | ⟨saved, _, succeeded⟩⟩
  · exact absurd (making.symm.trans failed) (by simp)
  · obtain rfl := (Prod.mk.inj (making.symm.trans made')).2
    exact absurd (writing.symm.trans failed) (by simp)
  · obtain rfl := (Prod.mk.inj (making.symm.trans made')).2
    obtain rfl := Except.ok.inj (writing.symm.trans wrote)
    exact absurd (moving.symm.trans failed) (by simp)
  · exact ⟨saved, succeeded⟩

/-- A disk on which one memory was saved takes any other memory as well. -/
theorem writable_of_save
    {store : Store}
    {stamp : Stamp}
    {disk : Storage.Disk}
    (memory : Memory)
    (success : (store.save stamp memory disk).1 = .ok ()) :
    store.Writable stamp disk := by
  rcases store.save_cases stamp memory disk with
    ⟨_, _, _, failed⟩ | ⟨_, _, _, _, failed⟩ |
      ⟨made, written, making, wrote, ⟨_, _, failed⟩ | ⟨renamed, moved, _⟩⟩
  · exact absurd success (by rw [failed]; simp)
  · exact absurd success (by rw [failed]; simp)
  · exact absurd success (by rw [failed]; simp)
  · refine ⟨made, making, fun content => ?_⟩
    obtain ⟨place, approached, namesFile, noDirectory, rfl⟩ :=
      Storage.Disk.write_eq_ok wrote
    have writing :=
      Storage.Disk.write_of_namesFile approached namesFile noDirectory content
    obtain ⟨start, goal, _, approachedStart, noDots, _, approachedGoal, namesGoal,
      goalFree, _⟩ :=
      Storage.Disk.rename_eq_ok moved
    have keeps := made.keepsDirectories_put_file place.location
      (Text.Utf8.bytes memory.fileText) content
    have keepsBack := made.keepsDirectories_put_file place.location content
      (Text.Utf8.bytes memory.fileText)
    refine ⟨_, _, writing, Storage.Disk.rename_of_namesFile
      (Storage.Disk.approach_of_keepsDirectories keeps approachedStart) noDots
      (Storage.Disk.read_of_write writing)
      (Storage.Disk.approach_of_keepsDirectories keeps approachedGoal) namesGoal ?_⟩
    intro isDirectory
    exact goalFree (keepsBack _ isDirectory)

/-- What loading gives and leaves on a disk on which every change succeeds. -/
theorem load_of_writable
    {store : Store}
    {stamp : Stamp}
    {disk : Storage.Disk}
    (writable : store.Writable stamp disk) :
    ∃ loaded, store.load stamp disk = (.ok (store.kept disk), loaded) ∧
      loaded.read store.workingDirectory store.path =
        .ok (Text.Utf8.bytes (store.kept disk).fileText) := by
  obtain ⟨saved, success⟩ := save_of_writable writable (store.kept disk)
  refine ⟨saved, ?_, read_of_save success⟩
  unfold load
  dsimp only
  rw [kept] at success
  rw [success]
  rfl

/-- Where file operations succeed, a memory of the channel that was saved is loaded
again; and whatever the file was before, it is loaded as a memory of the channel, and
left so that it is loaded as the same memory and left as it is, byte by byte, by every
store of the channel, whatever that store assumes about mentions. -/
theorem load_fixed_point
    (store : Store)
    (stamp next : Stamp)
    (disk : Storage.Disk)
    (writable : store.Writable stamp disk) :
    (∀ memory : Memory, memory.channelId = store.channelId ->
      ∃ saved, store.save stamp memory disk = (.ok (), saved) ∧
        (store.Writable next saved ->
          ∃ loaded, store.load next saved = (.ok memory, loaded))) ∧
    ∃ memory loaded,
      store.load stamp disk = (.ok memory, loaded) ∧
      memory.channelId = store.channelId ∧
      ∀ mention, (store.Writable next loaded ->
        ∃ again,
          ({ store with defaultMention := mention } : Store).load next loaded =
            (.ok memory, again) ∧
          ∃ content,
            loaded.read store.workingDirectory store.path = .ok content ∧
            again.read store.workingDirectory store.path = .ok content) := by
  constructor
  · intro memory ofChannel
    obtain ⟨saved, success⟩ := save_of_writable writable memory
    refine ⟨saved, success, fun writableAgain => ?_⟩
    obtain ⟨loaded, loading, _⟩ := load_of_writable writableAgain
    rw [kept_of_read ofChannel (read_of_save success)] at loading
    exact ⟨loaded, loading⟩
  · obtain ⟨loaded, loading, stored⟩ := load_of_writable writable
    have ofChannel : (store.kept disk).channelId = store.channelId :=
      store.channelId_restore _
    refine ⟨store.kept disk, loaded, loading, ofChannel, fun mention writableAgain => ?_⟩
    have writableOther :
        ({ store with defaultMention := mention } : Store).Writable next loaded :=
      writableAgain
    obtain ⟨again, loadingAgain, storedAgain⟩ := load_of_writable writableOther
    have same : ({ store with defaultMention := mention } : Store).kept loaded =
        store.kept disk := kept_of_read ofChannel stored
    rw [same] at loadingAgain storedAgain
    exact ⟨again, loadingAgain, _, stored, storedAgain⟩

/-- A file that is not a text, in the place of which an identifier with a control
character and a quotation mark is saved and loaded again; and the same file loaded
twice, by stores that differ about mentions. -/
theorem load_fixed_point_broken_file :
    let store : Store := ⟨.ofText "d/state.json", "42", true, []⟩
    let disk : Storage.Disk :=
      [(.ofTexts ["d"], .directory), (.ofTexts ["d", "state.json"], .file [0x7B, 0xFF])]
    let memory : Memory := ⟨some (.text "7\x01\"é"), "42", false⟩
    store.Writable ⟨1, 8⟩ disk ∧
    (∃ saved loaded, store.save ⟨1, 8⟩ memory disk = (.ok (), saved) ∧
      store.load ⟨1, 9⟩ saved = (.ok memory, loaded)) ∧
    ∃ found loaded again, store.load ⟨1, 8⟩ disk = (.ok found, loaded) ∧
      ({ store with defaultMention := false } : Store).load ⟨1, 9⟩ loaded =
        (.ok found, again) := by
  intro store disk memory
  have writable : store.Writable ⟨1, 8⟩ disk := by
    apply writable_of_save memory
    decide +kernel
  obtain ⟨savedAgain, found, loaded, loading, _, loadedAgain⟩ :=
    load_fixed_point store ⟨1, 8⟩ ⟨1, 9⟩ disk writable
  refine ⟨writable, ?_, ?_⟩
  · obtain ⟨saved, success, loads⟩ := savedAgain memory rfl
    have writableSaved : store.Writable ⟨1, 9⟩ saved := by
      have isSaved : saved = (store.save ⟨1, 8⟩ memory disk).2 := by rw [success]
      rw [isSaved]
      apply writable_of_save memory
      decide +kernel
    obtain ⟨reloaded, reloading⟩ := loads writableSaved
    exact ⟨saved, reloaded, success, reloading⟩
  · have writableLoaded : store.Writable ⟨1, 9⟩ loaded := by
      have isLoaded : loaded = (store.load ⟨1, 8⟩ disk).2 := by rw [loading]
      rw [isLoaded]
      apply writable_of_save memory
      decide +kernel
    obtain ⟨again, reloading, _⟩ := loadedAgain false writableLoaded
    exact ⟨found, loaded, again, loading, reloading⟩

end Store
end Watch
end FlemishDesk
