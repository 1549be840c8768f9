import FlemishDesk.Complaint
import FlemishDesk.Storage.Disk
import FlemishDesk.Watch.Memory

/-!
# Keeping the memory in a file

The memory is kept in one file.  It is written to a temporary file beside it,
which is then moved onto it, so that the file is never half written.  Saving is a
sequence of phases, and every phase makes one change to the disk.  Loading takes
from the file what is valid, fills in the defaults, and saves the result.
-/

namespace FlemishDesk
namespace Watch

/-- Where the memory is kept, and what holds when the file does not say. -/
structure Store where
  /-- The path of the file. -/
  path : Storage.Path
  /-- The channel, whatever the file says. -/
  channelId : String
  /-- Mention everyone, unless the file says otherwise. -/
  defaultMention : Bool
  /-- Where relative paths start. -/
  workingDirectory : Storage.Location
deriving DecidableEq, Repr

/-- What makes the name of a temporary file unique. -/
structure Stamp where
  /-- The number of the process. -/
  process : Nat
  /-- The time in milliseconds. -/
  milliseconds : Nat
deriving DecidableEq, Repr

namespace Store

/-- The path of the directory of the file. -/
def directoryPath (store : Store) : Storage.Path :=
  match store.path.parent? with
  | some parent => if parent.isEmpty then [Storage.dot] else parent
  | none => [Storage.dot]

/-- The name of the file as it is used in the name of the temporary file: a fixed one
when the file has no name or its name is no text. -/
def fileName (store : Store) : String :=
  (store.path.fileName?.bind Text.Utf8.text?).getD "state.json"

/-- The name of the temporary file. -/
def temporaryName (store : Store) (stamp : Stamp) : String :=
  ".tmp-" ++ store.fileName ++ "-" ++ Number.natText stamp.process ++ "-" ++
    Number.natText stamp.milliseconds

/-- The path of the temporary file. -/
def temporaryPath (store : Store) (stamp : Stamp) : Storage.Path :=
  store.directoryPath.below (Text.Utf8.bytes (store.temporaryName stamp))

/-- Why the memory was not saved. -/
inductive Error where
  /-- The directory could not be made. -/
  | directory (path : Storage.Path) (reason : Storage.Error)
  /-- The temporary file could not be written. -/
  | write (path : Storage.Path) (reason : Storage.Error)
  /-- The file could not be replaced. -/
  | replace (path : Storage.Path) (reason : Storage.Error)
deriving DecidableEq, Repr

/-- What is said about a memory that was not saved. -/
def Error.complaint : Error -> Complaint
  | .directory path reason =>
      ⟨"Failed to create state directory " ++ path.shown, [reason.message]⟩
  | .write path reason => ⟨"Failed to write " ++ path.shown, [reason.message]⟩
  | .replace path reason => ⟨"Failed to replace " ++ path.shown, [reason.message]⟩

/-- How far the saving of a memory has come. -/
inductive SavePhase where
  /-- The directory is to be made. -/
  | makingDirectory
  /-- The temporary file is to be written. -/
  | writing
  /-- The temporary file is to be moved onto the file. -/
  | replacing
  /-- The temporary file is to be removed because it could not be moved. -/
  | removing (reason : Storage.Error)
  /-- Saving has ended. -/
  | ended (result : Except Error Unit)

/-- The change to the disk that a phase makes. -/
def SavePhase.action? (store : Store) (stamp : Stamp) (memory : Memory) :
    SavePhase -> Option Storage.Disk.Action
  | .makingDirectory => some (.createDirectories store.directoryPath)
  | .writing =>
      some (.write (store.temporaryPath stamp) (Text.Utf8.bytes memory.fileText))
  | .replacing => some (.rename (store.temporaryPath stamp) store.path)
  | .removing _ => some (.remove (store.temporaryPath stamp))
  | .ended _ => none

/-- The phase after a change that succeeded. -/
def SavePhase.afterSuccess (store : Store) : SavePhase -> SavePhase
  | .makingDirectory => .writing
  | .writing => .replacing
  | .replacing => .ended (.ok ())
  | .removing reason => .ended (.error (.replace store.path reason))
  | .ended result => .ended result

/-- The phase after a change that failed. -/
def SavePhase.afterFailure (store : Store) (stamp : Stamp) (reason : Storage.Error) :
    SavePhase -> SavePhase
  | .makingDirectory => .ended (.error (.directory store.directoryPath reason))
  | .writing => .ended (.error (.write (store.temporaryPath stamp) reason))
  | .replacing => .removing reason
  | .removing first => .ended (.error (.replace store.path first))
  | .ended result => .ended result

/-- Make the change of a phase. -/
def saveStep (store : Store) (stamp : Stamp) (memory : Memory) (phase : SavePhase)
    (disk : Storage.Disk) : SavePhase × Storage.Disk :=
  match phase.action? store stamp memory with
  | none => (phase, disk)
  | some action =>
      match disk.perform store.workingDirectory action with
      | (.ok _, disk) => (phase.afterSuccess store, disk)
      | (.error reason, disk) => (phase.afterFailure store stamp reason, disk)

/-- Make the changes of as many phases as are left, up to a number. -/
def saveSteps (store : Store) (stamp : Stamp) (memory : Memory) :
    Nat -> SavePhase -> Storage.Disk -> SavePhase × Storage.Disk
  | 0, phase, disk => (phase, disk)
  | count + 1, phase, disk =>
      let (phase, disk) := saveStep store stamp memory phase disk
      saveSteps store stamp memory count phase disk

/-- Save a memory.  Four phases are the most that it takes. -/
def save (store : Store) (stamp : Stamp) (memory : Memory) (disk : Storage.Disk) :
    Except Error Unit × Storage.Disk :=
  match saveSteps store stamp memory 4 .makingDirectory disk with
  | (.ended result, disk) => (result, disk)
  | (_, disk) => (.ok (), disk)

/-- The memory when there is no file. -/
def defaults (store : Store) : Memory :=
  ⟨none, store.channelId, store.defaultMention⟩

/-- What the value of a file says, with the defaults for what it does not say. -/
def merge (store : Store) : Option Json -> Memory
  | some (.object fields) =>
      { lastReleaseId := (Json.lastField? "lastReleaseId" fields).bind Release.Id.ofJson?
        channelId := store.channelId
        mentionEveryone :=
          ((Json.lastField? "mentionEveryone" fields).bind Json.bool?).getD
            store.defaultMention }
  | _ => store.defaults

/-- The memory that the bytes of a file keep. -/
def restore (store : Store) (content : Option (List UInt8)) : Memory :=
  store.merge ((content.bind Text.Utf8.text?).bind Json.read?)

/-- Load the memory and save it in its full form. -/
def load (store : Store) (stamp : Stamp) (disk : Storage.Disk) :
    Except Error Memory × Storage.Disk :=
  let memory := store.restore (disk.read store.workingDirectory store.path).toOption
  match store.save stamp memory disk with
  | (.ok _, disk) => (.ok memory, disk)
  | (.error error, disk) => (.error error, disk)

end Store
end Watch
end FlemishDesk
