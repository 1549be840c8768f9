import FlemishDesk.Watch.Operation

/-!
# Running the watcher

A watcher starts with the memory that its file keeps.  An operation that runs alone goes
through all its phases in a row, unless another one holds the memory: then it waits and
has no result.  Two checks that start together take turns: the first runs until it has
to wait for the listing, and then the second one runs.
-/

namespace FlemishDesk
namespace Watch

variable {σ : Type}

/-- The ways out over a network: the listing of the releases of the target, and the
channel. -/
def Ports.over (network : Http.Network σ) (fetchWaits : Bool) (feed : Release.Feed)
    (channel : Announcement.Channel) (target : Target) : Ports σ where
  fetch := feed.fetch network target.owner target.repository
  post := fun post outside =>
    let (result, outside) := channel.post network post outside
    (result.mapError fun error => ⟨error.message, error.causes⟩, outside)
  fetchWaits := fetchWaits

/-- The watcher at its start, with the memory of its file. -/
def start (setup : Setup σ) (disk : Storage.Disk) (outside : σ) :
    Except Store.Error (World σ) × Storage.Disk :=
  match setup.store.load setup.stamp disk with
  | (.ok memory, disk) => (.ok ⟨memory, none, false, disk, outside⟩, disk)
  | (.error error, disk) => (.error error, disk)

/-- The greatest number of steps that an operation takes when nothing is in its
way. -/
def longest : Nat := 9

/-- The result of a check, if it has ended. -/
def Operation.checkResult? : Operation -> Option (Except CheckError CheckOutcome)
  | .check _ (.ended result) => some result
  | _ => none

/-- The result of a switch of the mention, if it has ended. -/
def Operation.toggleResult? : Operation -> Option (Except Store.Error Bool)
  | .toggle (.ended result) => some result
  | _ => none

/-- The result of an announcement by hand, if it has ended. -/
def Operation.announceResult? : Operation -> Option (Except Complaint Unit)
  | .announce _ (.ended result) => some result
  | _ => none

/-- Check for a new release.  There is no result while another operation holds the
memory. -/
def check (setup : Setup σ) (force : Bool) (world : World σ) :
    Option (Except CheckError CheckOutcome) × World σ :=
  let (operation, world) := steps setup 0 longest (.check force .starting) world
  (operation.checkResult?, world)

/-- Switch the mention of everyone.  There is no result while another operation holds
the memory. -/
def toggle (setup : Setup σ) (world : World σ) :
    Option (Except Store.Error Bool) × World σ :=
  let (operation, world) := steps setup 0 longest (.toggle .locking) world
  (operation.toggleResult?, world)

/-- Announce a text by hand.  There is no result while another operation holds the
memory. -/
def announce (setup : Setup σ) (text : String) (world : World σ) :
    Option (Except Complaint Unit) × World σ :=
  let (operation, world) := steps setup 0 longest (.announce text .locking) world
  (operation.announceResult?, world)

/-- Ask for the latest release. -/
def latest (setup : Setup σ) (world : World σ) :
    Except Release.Feed.Error (Option Release) × World σ :=
  let (result, world) := world.fetch setup
  (result.map (Release.latest? setup.target.includePrereleases), world)

/-- Two checks that start together.  When the listing is not there at once, the
second check runs while the first one waits. -/
def checkPair (setup : Setup σ) (first second : Bool) (world : World σ) :
    Option (Except CheckError CheckOutcome) × Option (Except CheckError CheckOutcome) ×
      World σ :=
  let early := if setup.ports.fetchWaits then 1 else longest
  let (one, world) := steps setup 0 early (.check first .starting) world
  let (other, world) := steps setup 1 early (.check second .starting) world
  let (one, world) := steps setup 0 longest one world
  let (other, world) := steps setup 1 longest other world
  (one.checkResult?, other.checkResult?, world)

/-- The check waits for a listing that never comes. -/
def isSilent : Except CheckError CheckOutcome -> Bool
  | .error (.feed .silent) => true
  | _ => false

/-- Check again and again, up to a number of times, until a listing never comes or the
memory is held. -/
def poll (setup : Setup σ) : Nat -> World σ -> World σ
  | 0, world => world
  | count + 1, world =>
      let (result, world) := check setup false world
      if result.all isSilent then world else poll setup count world

end Watch
end FlemishDesk
