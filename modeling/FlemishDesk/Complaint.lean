import FlemishDesk.Number.Integer
import FlemishDesk.Text.Cut

/-!
# Complaints

A complaint says what failed and, from the outside in, why.
-/

namespace FlemishDesk

/-- What failed and why. -/
structure Complaint where
  /-- What failed. -/
  message : String
  /-- The reasons, the outermost first. -/
  causes : List String
deriving DecidableEq, Repr

namespace Complaint

/-- A complaint without a reason. -/
def plain (message : String) : Complaint :=
  ⟨message, []⟩

/-- A reason with its number in front; later lines of it are indented alike. -/
def numbered (number : Nat) (cause : String) : String :=
  let mark := "    " ++ Number.natText number ++ ": "
  mark ++ Text.replaced "\n" ("\n" ++ "       ") cause

/-- A single reason; every line of it is indented. -/
def single (cause : String) : String :=
  "    " ++ Text.replaced "\n" "\n    " cause

/-- The reasons, each on a line of its own.  They are numbered when there are
several. -/
def causeLines (causes : List String) : List String :=
  match causes with
  | [] => []
  | [cause] => [single cause]
  | _ => (List.range causes.length).zipWith numbered causes

/-- The whole complaint. -/
def text (complaint : Complaint) : String :=
  if complaint.causes.isEmpty then
    complaint.message
  else
    complaint.message ++ "\n\nCaused by:\n" ++
      Text.join "\n" (causeLines complaint.causes)

end Complaint
end FlemishDesk
