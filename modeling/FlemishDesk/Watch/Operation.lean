import FlemishDesk.Announcement.Channel
import FlemishDesk.Announcement.Compose
import FlemishDesk.Release.Feed
import FlemishDesk.Watch.Store

/-!
# The operations of the watcher

The watcher checks for a new release, switches the mention of everyone, and posts
announcements by hand.  Operations may run at the same time.  They share the
memory, which one operation at a time may hold, and a flag that says that a check
is under way; a check that finds the flag set ends at once.

An operation is a sequence of phases.  A step takes an operation from one phase to
the next and changes what the operations share; an operation that waits for the
memory stays where it is.
-/

namespace FlemishDesk
namespace Watch

/-- What the watcher watches and when it announces. -/
structure Target where
  /-- The owner of the sources. -/
  owner : String
  /-- The name of the sources. -/
  repository : String
  /-- Previews count as releases. -/
  includePrereleases : Bool
  /-- The first release that is seen is announced. -/
  announceOnStart : Bool
deriving DecidableEq, Repr

/-- The ways out of the watcher, with internal state: the listing of releases and
the channel. -/
structure Ports (σ : Type) where
  /-- Ask for the listing. -/
  fetch : σ -> Except Release.Feed.Error (List Release) × σ
  /-- Deliver a post. -/
  post : Announcement.Post -> σ -> Except Complaint Unit × σ
  /-- The listing is not there at once, so that other operations go on meanwhile. -/
  fetchWaits : Bool

/-- The fixed surroundings of a watcher. -/
structure Setup (σ : Type) where
  /-- What the watcher watches. -/
  target : Target
  /-- Where the memory is kept. -/
  store : Store
  /-- What makes temporary files unique. -/
  stamp : Stamp
  /-- The ways out. -/
  ports : Ports σ

/-- What the operations share. -/
structure World (σ : Type) where
  /-- The memory. -/
  memory : Memory
  /-- The operation that holds the memory. -/
  holder : Option Nat
  /-- A check is under way. -/
  busy : Bool
  /-- The disk with the file that keeps the memory. -/
  disk : Storage.Disk
  /-- The state of the ways out. -/
  outside : σ

/-- How a check ends when nothing fails. -/
inductive CheckOutcome where
  /-- Another check is under way. -/
  | busy
  /-- There is no release to announce. -/
  | noRelease
  /-- The first release that was seen was noted. -/
  | initialized (id : Release.Id)
  /-- The release has been announced before. -/
  | upToDate (id : Release.Id)
  /-- The release was announced. -/
  | posted (id : Release.Id)
  /-- The announcement was not taken. -/
  | postFailed (id : Release.Id)
deriving DecidableEq, Repr

/-- Why a check fails. -/
inductive CheckError where
  /-- There is no listing. -/
  | feed (error : Release.Feed.Error)
  /-- The memory was not saved. -/
  | store (error : Store.Error)
deriving DecidableEq, Repr

/-- What is said about a failed check. -/
def CheckError.complaint : CheckError -> Complaint
  | .feed error => ⟨error.message, error.causes⟩
  | .store error => error.complaint

/-- How far a check has come. -/
inductive CheckPhase where
  /-- The flag is to be set. -/
  | starting
  /-- The listing is to be asked for. -/
  | fetching
  /-- The memory is to be taken. -/
  | locking (latest : Release)
  /-- It is to be decided what happens to the release. -/
  | deciding (latest : Release)
  /-- The announcement is to be delivered. -/
  | posting (latest : Release) (post : Announcement.Post)
  /-- The release is to be remembered. -/
  | recording (id : Release.Id) (outcome : CheckOutcome)
  /-- The memory is to be saved. -/
  | saving (outcome : CheckOutcome)
  /-- The memory is to be given back. -/
  | unlocking (result : Except CheckError CheckOutcome)
  /-- The flag is to be cleared. -/
  | clearing (result : Except CheckError CheckOutcome)
  /-- The check has ended. -/
  | ended (result : Except CheckError CheckOutcome)

/-- How far a switch of the mention has come. -/
inductive TogglePhase where
  /-- The memory is to be taken. -/
  | locking
  /-- The mention is to be switched. -/
  | flipping
  /-- The memory is to be saved. -/
  | saving
  /-- The memory is to be given back. -/
  | unlocking (result : Except Store.Error Bool)
  /-- The switch has ended. -/
  | ended (result : Except Store.Error Bool)

/-- How far an announcement by hand has come. -/
inductive AnnouncePhase where
  /-- The memory is to be taken. -/
  | locking
  /-- The mention is to be looked up. -/
  | reading
  /-- The memory is to be given back. -/
  | unlocking (mentionEveryone : Bool)
  /-- The announcement is to be delivered. -/
  | posting (post : Announcement.Post)
  /-- The announcement has ended. -/
  | ended (result : Except Complaint Unit)

/-- An operation and how far it has come. -/
inductive Operation where
  /-- Check for a new release; a forced check announces it in any case. -/
  | check (force : Bool) (phase : CheckPhase)
  /-- Switch the mention of everyone. -/
  | toggle (phase : TogglePhase)
  /-- Announce a text by hand. -/
  | announce (text : String) (phase : AnnouncePhase)

/-- The release has been announced or noted before. -/
def Memory.knows (memory : Memory) (id : Release.Id) : Bool :=
  memory.lastReleaseId.any (·.sameAs id)

/-- The announcement of a release. -/
def releasePost (memory : Memory) (release : Release) : Announcement.Post :=
  ⟨Announcement.ofRelease release memory.mentionEveryone, memory.mentionEveryone⟩

/-- The announcement of a text by hand. -/
def manualPost (mentionEveryone : Bool) (text : String) : Announcement.Post :=
  ⟨Announcement.manual text mentionEveryone, mentionEveryone⟩

/-- What happens to the latest release. -/
def settle (target : Target) (force : Bool) (memory : Memory) (latest : Release) :
    CheckPhase :=
  if !force && memory.isFirstRun && !target.announceOnStart then
    .recording latest.id (.initialized latest.id)
  else if !force && memory.knows latest.id then
    .unlocking (.ok (.upToDate latest.id))
  else
    .posting latest (releasePost memory latest)

section Steps

variable {σ : Type}

/-- Take the memory for an operation, if nobody holds it. -/
def World.take? (world : World σ) (tag : Nat) : Option (World σ) :=
  if world.holder.isNone then some { world with holder := some tag } else none

/-- Give the memory back. -/
def World.giveBack (world : World σ) : World σ :=
  { world with holder := none }

/-- Save the memory. -/
def World.save (setup : Setup σ) (world : World σ) : Except Store.Error Unit × World σ :=
  let (result, disk) := setup.store.save setup.stamp world.memory world.disk
  (result, { world with disk })

/-- Ask for the listing. -/
def World.fetch (setup : Setup σ) (world : World σ) :
    Except Release.Feed.Error (List Release) × World σ :=
  let (result, outside) := setup.ports.fetch world.outside
  (result, { world with outside })

/-- Deliver a post. -/
def World.post (setup : Setup σ) (post : Announcement.Post) (world : World σ) :
    Except Complaint Unit × World σ :=
  let (result, outside) := setup.ports.post post world.outside
  (result, { world with outside })

/-- What a check does with a listing. -/
def afterFetch (target : Target) :
    Except Release.Feed.Error (List Release) -> CheckPhase
  | .error error => .clearing (.error (.feed error))
  | .ok releases =>
      match Release.latest? target.includePrereleases releases with
      | none => .clearing (.ok .noRelease)
      | some latest => .locking latest

/-- One step of a check. -/
def checkStep (setup : Setup σ) (tag : Nat) (force : Bool) (phase : CheckPhase)
    (world : World σ) : CheckPhase × World σ :=
  match phase with
  | .starting =>
      if world.busy then (.ended (.ok .busy), world)
      else (.fetching, { world with busy := true })
  | .fetching =>
      let (result, world) := world.fetch setup
      (afterFetch setup.target result, world)
  | .locking latest =>
      match world.take? tag with
      | some world => (.deciding latest, world)
      | none => (.locking latest, world)
  | .deciding latest => (settle setup.target force world.memory latest, world)
  | .posting latest post =>
      match world.post setup post with
      | (.ok _, world) => (.recording latest.id (.posted latest.id), world)
      | (.error _, world) => (.unlocking (.ok (.postFailed latest.id)), world)
  | .recording id outcome =>
      (.saving outcome,
        { world with memory := { world.memory with lastReleaseId := some id } })
  | .saving outcome =>
      match world.save setup with
      | (.ok _, world) => (.unlocking (.ok outcome), world)
      | (.error error, world) => (.unlocking (.error (.store error)), world)
  | .unlocking result => (.clearing result, world.giveBack)
  | .clearing result => (.ended result, { world with busy := false })
  | .ended result => (.ended result, world)

/-- One step of a switch of the mention. -/
def toggleStep (setup : Setup σ) (tag : Nat) (phase : TogglePhase) (world : World σ) :
    TogglePhase × World σ :=
  match phase with
  | .locking =>
      match world.take? tag with
      | some world => (.flipping, world)
      | none => (.locking, world)
  | .flipping =>
      (.saving,
        { world with
          memory :=
            { world.memory with mentionEveryone := !world.memory.mentionEveryone } })
  | .saving =>
      match world.save setup with
      | (.ok _, world) => (.unlocking (.ok world.memory.mentionEveryone), world)
      | (.error error, world) => (.unlocking (.error error), world)
  | .unlocking result => (.ended result, world.giveBack)
  | .ended result => (.ended result, world)

/-- One step of an announcement by hand. -/
def announceStep (setup : Setup σ) (tag : Nat) (text : String) (phase : AnnouncePhase)
    (world : World σ) : AnnouncePhase × World σ :=
  match phase with
  | .locking =>
      match world.take? tag with
      | some world => (.reading, world)
      | none => (.locking, world)
  | .reading => (.unlocking world.memory.mentionEveryone, world)
  | .unlocking mentionEveryone =>
      (.posting (manualPost mentionEveryone text), world.giveBack)
  | .posting post =>
      let (result, world) := world.post setup post
      (.ended result, world)
  | .ended result => (.ended result, world)

/-- One step of an operation, which goes by a number. -/
def step (setup : Setup σ) (tag : Nat) (operation : Operation) (world : World σ) :
    Operation × World σ :=
  match operation with
  | .check force phase =>
      let (phase, world) := checkStep setup tag force phase world
      (.check force phase, world)
  | .toggle phase =>
      let (phase, world) := toggleStep setup tag phase world
      (.toggle phase, world)
  | .announce text phase =>
      let (phase, world) := announceStep setup tag text phase world
      (.announce text phase, world)

/-- Up to a number of steps of one operation in a row. -/
def steps (setup : Setup σ) (tag : Nat) :
    Nat -> Operation -> World σ -> Operation × World σ
  | 0, operation, world => (operation, world)
  | count + 1, operation, world =>
      let (operation, world) := step setup tag operation world
      steps setup tag count operation world

end Steps

end Watch
end FlemishDesk
