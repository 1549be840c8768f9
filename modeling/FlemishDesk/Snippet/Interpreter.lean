import FlemishDesk.Complaint
import FlemishDesk.Snippet.Program
import FlemishDesk.Storage.Disk
import FlemishDesk.Text.ByteLine
import FlemishDesk.Text.Utf8

/-!
# Running the interpreter

The interpreter is another program.  What it writes is echoed line by line: the end
of a line is dropped, a last line without an end counts as a line, and a line that is
not valid ends the echo.  A snippet is made a program, put into a temporary file, and
run from there.
-/

namespace FlemishDesk
namespace Snippet

/-- What became of a program that ran. -/
structure Child where
  /-- What it wrote to its output. -/
  output : List UInt8
  /-- What it wrote to its error output. -/
  errors : List UInt8
  /-- The code that it ended with, unless it was killed. -/
  code : Option Nat
deriving DecidableEq, Repr

/-- The program ended well. -/
def Child.isSuccess (child : Child) : Bool :=
  child.code == some 0

/-- Start a program with arguments on a disk. -/
abbrev Launcher := String -> List String -> Storage.Disk -> Except Storage.Error Child

/-- The lines that are echoed: those before the first that is not valid. -/
def echoLines : List (List UInt8) -> List String
  | [] => []
  | line :: others =>
      match Text.Utf8.text? (Text.dropByteLineEnd line) with
      | some text => text :: echoLines others
      | none => []

/-- The echo of a stream of bytes. -/
def echo (stream : List UInt8) : String :=
  String.join ((echoLines (Text.byteLines stream)).map fun line => line ++ "\n")

/-- Why the interpreter did not start. -/
def startComplaint (path : String) : Storage.Error -> Complaint
  | .missing =>
      .plain ("Could not find the '" ++ path ++
        "' executable. Install VlaamsCodex (pipx/pip) or set PLATS_PATH.")
  | error => ⟨"Failed to start " ++ path, [error.message]⟩

/-- Run the interpreter. -/
def runInterpreter (launch : Launcher) (path : String) (arguments : List String)
    (disk : Storage.Disk) : Except Complaint Child :=
  (launch path arguments disk).mapError (startComplaint path)

/-- The path of the temporary file of a snippet. -/
def temporaryPath (directory : Storage.Path) (process milliseconds : Nat) :
    Storage.Path :=
  directory.below (.ofText ("vlaamscodex-selection-" ++ Number.natText process ++ "-" ++
    Number.natText milliseconds ++ ".plats"))

/-- Run a snippet from a temporary file.  The file is removed afterwards. -/
def runSnippet (launch : Launcher) (path : String) (working : Storage.Location)
    (temporary : Storage.Path) (snippet : String) (disk : Storage.Disk) :
    Except Complaint Child × Storage.Disk :=
  match disk.write working temporary (Text.Utf8.bytes (program snippet)) with
  | .error error =>
      (.error ⟨"Failed to write " ++ temporary.shown, [error.message]⟩, disk)
  | .ok disk =>
      let result := runInterpreter launch path ["run", temporary.shown] disk
      (result, (disk.remove working temporary).toOption.getD disk)

end Snippet
end FlemishDesk
