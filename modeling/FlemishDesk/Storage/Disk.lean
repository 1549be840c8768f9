import FlemishDesk.Storage.Path

/-!
# Files and directories

A disk is a set of files and directories, each at a location.  A path is walked name
by name, from the root or from a working directory, and every name on the way has to
be that of a directory.  The operations are those of a file system, with the errors
that a file system gives.  Moving a file onto another one is a single step.
-/

namespace FlemishDesk
namespace Storage

/-- What stands at a location. -/
inductive Node where
  | file (content : List UInt8)
  | directory
deriving DecidableEq, Repr

/-- Why an operation failed. -/
inductive Error where
  /-- There is nothing of that name. -/
  | missing
  /-- The operation is not allowed. -/
  | denied
  /-- The path leads to a directory by dots, which cannot be replaced. -/
  | busy
  /-- There is something of that name. -/
  | occupied
  /-- The way leads through a file. -/
  | notDirectory
  /-- There is a directory where a file is meant. -/
  | isDirectory
  /-- A name, or the whole path, is too long. -/
  | tooLong
  /-- The path holds a NUL. -/
  | invalidName
deriving DecidableEq, Repr

/-- What is said about a failed operation. -/
def Error.message : Error -> String
  | .missing => "No such file or directory (os error 2)"
  | .denied => "Permission denied (os error 13)"
  | .busy => "Device or resource busy (os error 16)"
  | .occupied => "File exists (os error 17)"
  | .notDirectory => "Not a directory (os error 20)"
  | .isDirectory => "Is a directory (os error 21)"
  | .tooLong => "File name too long (os error 36)"
  | .invalidName => "file name contained an unexpected NUL byte"

/-- Files and directories with their locations.  The root is always a directory. -/
abbrev Disk := List (Location × Node)

/-- Where a path leads: a directory and a name in it. -/
structure Place where
  /-- The directory. -/
  directory : Location
  /-- The last name of the path; a dot when the path is the root. -/
  name : Name
  /-- The path ends in a slash. -/
  slash : Bool
deriving DecidableEq, Repr

/-- The location of a place whose name is no dots. -/
def Place.location (place : Place) : Location :=
  place.directory ++ [place.name]

namespace Disk

/-- How many bytes a name may have. -/
def longestName : Nat := 255

/-- How many bytes a path may have. -/
def longestPath : Nat := 4095

/-- What stands at a location. -/
def node? (disk : Disk) (location : Location) : Option Node :=
  if location.isEmpty then some .directory else disk.lookup location

/-- Forget what stands at a location. -/
def without (disk : Disk) (location : Location) : Disk :=
  disk.filter fun entry => entry.1 != location

/-- Put something at a location. -/
def put (disk : Disk) (location : Location) (node : Node) : Disk :=
  (location, node) :: disk.without location

/-- Forget what stands at a location and everything below it. -/
def removeTree (disk : Disk) (location : Location) : Disk :=
  disk.filter fun entry => !location.isPrefixOf entry.1

/-! ## Walking -/

/-- Where a name leads from a location. -/
def enter (disk : Disk) (location : Location) (name : Name) : Except Error Location :=
  if disk.node? location != some .directory then .error .notDirectory
  else if name == [dot] then .ok location
  else if name == [dot, dot] then .ok location.dropLast
  else if longestName < name.length then .error .tooLong
  else
    let next := location ++ [name]
    if (disk.node? next).isSome then .ok next else .error .missing

/-- Where names lead from a location. -/
def walk (disk : Disk) (location : Location) : List Name -> Except Error Location
  | [] => .ok location
  | name :: others =>
      match disk.enter location name with
      | .error error => .error error
      | .ok next => walk disk next others

/-- The place that a path leads to from a working directory. -/
def approach (disk : Disk) (working : Location) (path : Path) : Except Error Place :=
  if path.contains 0 then .error .invalidName
  else if longestPath < path.length then .error .tooLong
  else if path.isEmpty then .error .missing
  else
    let names := path.names
    match disk.walk (if path.isAbsolute then [] else working) names.dropLast with
    | .error error => .error error
    | .ok directory =>
        if disk.node? directory == some .directory then
          .ok ⟨directory, names.getLastD [dot], path.endsInSlash⟩
        else .error .notDirectory

/-- The location of what a path leads to. -/
def locate (disk : Disk) (working : Location) (path : Path) : Except Error Location :=
  match disk.approach working path with
  | .error error => .error error
  | .ok place =>
      match disk.enter place.directory place.name with
      | .error error => .error error
      | .ok location =>
          if place.slash && disk.node? location != some .directory then
            .error .notDirectory
          else .ok location

/-- A path leads to a directory. -/
def hasDirectory (disk : Disk) (working : Location) (path : Path) : Bool :=
  match disk.locate working path with
  | .ok location => disk.node? location == some .directory
  | .error _ => false

/-! ## Operations -/

/-- Read a file. -/
def read (disk : Disk) (working : Location) (path : Path) : Except Error (List UInt8) :=
  match disk.locate working path with
  | .error error => .error error
  | .ok location =>
      match disk.node? location with
      | none => .error .missing
      | some .directory => .error .isDirectory
      | some (.file content) => .ok content

/-- Make a directory in one that is there. -/
def createDirectory (disk : Disk) (working : Location) (path : Path) :
    Except Error Disk :=
  match disk.approach working path with
  | .error error => .error error
  | .ok place =>
      if Path.isDots place.name then .error .occupied
      else
        match disk.enter place.directory place.name with
        | .ok _ => .error .occupied
        | .error .missing => .ok (disk.put place.location .directory)
        | .error error => .error error

/-- Make a directory, unless it is there. -/
def ensureDirectory (disk : Disk) (working : Location) (path : Path) :
    Except Error Unit × Disk :=
  match disk.createDirectory working path with
  | .ok disk => (.ok (), disk)
  | .error error =>
      (if disk.hasDirectory working path then .ok () else .error error, disk)

/-- Make the first directory of a list, unless it is there.  When what it lies in is
missing, make the directories of the rest of the list first. -/
def createAlong (disk : Disk) (working : Location) : List Path -> Except Error Unit × Disk
  | [] => (.ok (), disk)
  | path :: parents =>
      match disk.ensureDirectory working path with
      | (.error .missing, disk) =>
          match createAlong disk working parents with
          | (.error error, disk) => (.error error, disk)
          | (.ok _, disk) => disk.ensureDirectory working path
      | result => result

/-- Make a directory and those that it lies in, unless they are there. -/
def createDirectories (disk : Disk) (working : Location) (path : Path) :
    Except Error Unit × Disk :=
  disk.createAlong working path.ancestors

/-- Write a file, in place of the one that is there, if any. -/
def write (disk : Disk) (working : Location) (path : Path) (content : List UInt8) :
    Except Error Disk :=
  match disk.approach working path with
  | .error error => .error error
  | .ok place =>
      if Path.isDots place.name || place.slash then .error .isDirectory
      else
        match disk.enter place.directory place.name with
        | .error .missing => .ok (disk.put place.location (.file content))
        | .error error => .error error
        | .ok location =>
            if disk.node? location == some .directory then .error .isDirectory
            else .ok (disk.put location (.file content))

/-- Put a file that has been taken from a source at a place, onto the file that is
there, if any. -/
def replace (disk : Disk) (source : Location) (content : List UInt8) (target : Place) :
    Except Error Disk :=
  match disk.enter target.directory target.name with
  | .error .missing =>
      if target.slash then .error .notDirectory
      else .ok ((disk.without source).put target.location (.file content))
  | .error error => .error error
  | .ok location =>
      if target.slash then .error .notDirectory
      else if disk.node? location == some .directory then .error .isDirectory
      else .ok ((disk.without source).put location (.file content))

/-- Move a file onto another one, or to where there is none. -/
def rename (disk : Disk) (working : Location) (source target : Path) :
    Except Error Disk :=
  match disk.approach working source, disk.approach working target with
  | .error error, _ => .error error
  | _, .error error => .error error
  | .ok start, .ok goal =>
      if Path.isDots start.name || Path.isDots goal.name then .error .busy
      else
        match disk.read working source with
        | .error error => .error error
        | .ok content => disk.replace start.location content goal

/-- Remove a file. -/
def remove (disk : Disk) (working : Location) (path : Path) : Except Error Disk :=
  match disk.locate working path with
  | .error error => .error error
  | .ok location =>
      if disk.node? location == some .directory then .error .isDirectory
      else .ok (disk.without location)

/-- The names in a directory, in order, if there is a directory. -/
def entries? (disk : Disk) (working : Location) (path : Path) : Option (List Name) :=
  match disk.locate working path with
  | .error _ => none
  | .ok location =>
      if disk.node? location != some .directory then none
      else
        let below := disk.filter fun entry =>
          entry.1.length == location.length + 1 && location.isPrefixOf entry.1
        some ((below.filterMap fun entry => entry.1.getLast?).mergeSort fun a b =>
          decide (a ≤ b))

/-! ## Changes -/

/-- A change to a disk that a file system makes in one step, or that may stop half
way. -/
inductive Action where
  /-- Make a directory and those on the way to it. -/
  | createDirectories (path : Path)
  /-- Write a file. -/
  | write (path : Path) (content : List UInt8)
  /-- Move a file. -/
  | rename (source target : Path)
  /-- Remove a file. -/
  | remove (path : Path)
deriving DecidableEq, Repr

/-- The disk after a change that failed is the one before it. -/
def settle (disk : Disk) : Except Error Disk -> Except Error Unit × Disk
  | .ok disk => (.ok (), disk)
  | .error error => (.error error, disk)

/-- Make a change. -/
def perform (disk : Disk) (working : Location) : Action -> Except Error Unit × Disk
  | .createDirectories path => disk.createDirectories working path
  | .write path content => disk.settle (disk.write working path content)
  | .rename source target => disk.settle (disk.rename working source target)
  | .remove path => disk.settle (disk.remove working path)

end Disk
end Storage
end FlemishDesk
