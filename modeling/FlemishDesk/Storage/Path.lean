import FlemishDesk.Text.Utf8

/-!
# Paths

A path is a sequence of bytes: names with slashes between them.  The bytes need not be
those of a text.  The parent and the file name of a path are read off its bytes alone,
in which empty names and single dots say nothing, apart from a dot at the very start.
Where a path leads is decided by a disk.
-/

namespace FlemishDesk
namespace Storage

/-- A name in a directory: any bytes, whether or not they are those of a text. -/
abbrev Name := List UInt8

/-- The names on the way from the root. -/
abbrev Location := List Name

/-- Names with slashes between them. -/
abbrev Path := List UInt8

/-- The byte between two names. -/
def slash : UInt8 := 0x2F

/-- The byte of the names that lead to a directory itself and to the one above. -/
def dot : UInt8 := 0x2E

/-- The location that the names of texts lead to. -/
def Location.ofTexts (names : List String) : Location :=
  names.map Text.Utf8.bytes

namespace Path

/-- The path that a text says. -/
def ofText (text : String) : Path :=
  Text.Utf8.bytes text

/-- A path as it is shown, with the replacement character for what is no text. -/
def shown (path : Path) : String :=
  Text.Utf8.lenient path

/-- A name that leads to the directory itself or to the one above. -/
def isDots (name : Name) : Bool :=
  name == [dot] || name == [dot, dot]

/-- Drop slashes and single dots that say nothing from the end of a path, which is
read backwards. -/
def trimBackwards : Path -> Path
  | first :: second :: rest =>
      if first == slash || first == dot && second == slash then
        trimBackwards (second :: rest)
      else first :: second :: rest
  | path => path

/-- A path without slashes and single dots that say nothing at its end. -/
def trimmed (path : Path) : Path :=
  (trimBackwards path.reverse).reverse

/-- The path of the directory that a path lies in, if the path names anything. -/
def parent? (path : Path) : Option Path :=
  let path := trimmed path
  if path.isEmpty || path == [slash] then
    none
  else
    some (trimmed (path.reverse.dropWhile (· != slash)).reverse)

/-- The last name of a path, unless it is a dot or a double dot. -/
def fileName? (path : Path) : Option Name :=
  let path := trimmed path
  let name := (path.reverse.takeWhile (· != slash)).reverse
  if name.isEmpty || isDots name then none else some name

/-- The path starts at the root. -/
def isAbsolute (path : Path) : Bool :=
  path.head? == some slash

/-- The path ends in a slash and can lead to nothing but a directory. -/
def endsInSlash (path : Path) : Bool :=
  path.getLast? == some slash

/-- The path of a name below a directory. -/
def below (directory name : Path) : Path :=
  if directory.isEmpty || directory.endsInSlash then directory ++ name
  else directory ++ slash :: name

/-- A path and the paths of the directories that it lies in, as far as they name
anything, at most a number of them. -/
def ancestorsUpTo : Nat -> Path -> List Path
  | 0, _ => []
  | count + 1, path =>
      match parent? path with
      | none => []
      | some parent => path :: ancestorsUpTo count parent

/-- A path and the paths of the directories that it lies in, as far as they name
anything.  Every parent is shorter than its path. -/
def ancestors (path : Path) : List Path :=
  ancestorsUpTo path.length path

/-- What stands between the slashes of a path. -/
def pieces : Path -> List Name
  | [] => [[]]
  | byte :: rest =>
      if byte == slash then [] :: pieces rest else (pieces rest).modifyHead (byte :: ·)

/-- The names of a path in order. -/
def names (path : Path) : List Name :=
  (pieces path).filter fun name => !name.isEmpty

end Path
end Storage
end FlemishDesk
