import FlemishDesk.Number.Integer
import FlemishDesk.Text.Blank
import FlemishDesk.Text.Cut

/-!
# Parts of a content

A request may ask for parts of a content by the positions of their bytes.  Such a wish
is read strictly, and it can be met only if every part lies in the content and no two
parts overlap.
-/

namespace FlemishDesk
namespace Http
namespace Range

/-- A part of a content that is asked for. -/
inductive Part where
  /-- The bytes from a first to a last position. -/
  | between (first last : Nat)
  /-- The bytes from a position on. -/
  | since (first : Nat)
  /-- A number of bytes at the end. -/
  | final (count : Nat)
deriving DecidableEq, Repr

/-- Read a position: a number of sixty-four bits without a sign and without leading
zeros. -/
def position? (text : List Char) : Option Nat :=
  if text.head? == some '0' && text.length != 1 then none
  else if text.head? == some '+' then none
  else Number.unsigned? Number.wordBound text

/-- Read a part. -/
def part? (text : List Char) : Option Part :=
  match Text.splitOn ['-'] text with
  | [[], count] => ((position? count).filter (· != 0)).map .final
  | [first, []] => (position? first).map .since
  | [first, last] => do return .between (<- position? first) (<- position? last)
  | _ => none

/-- A part may have one blank before it. -/
def withoutBlank? (text : List Char) : Option (List Char) :=
  if text.getLast?.any Text.isBlank || (text.filter Text.isBlank).length > 1 then none
  else some (Text.trim text)

/-- Read the parts that are asked for. -/
def parts? (text : List Char) : Option (List Part) :=
  match Text.splitOn "bytes=".toList text with
  | [[], list] =>
      if list.head?.any Text.isBlank then none
      else (Text.splitOn [','] list).mapM fun part => (withoutBlank? part).bind part?
  | _ => none

/-- The first and the last position of a part in a content of a size, if the content
has the part.  The only position in an empty content is the first. -/
def Part.bounds? (size : Nat) : Part -> Option (Nat × Nat)
  | .between first last =>
      let last := min last (size - 1)
      if first ≤ last then some (first, last) else none
  | .since first => if first ≤ size - 1 then some (first, size - 1) else none
  | .final count =>
      if count ≤ size then
        if size - count ≤ size - 1 then some (size - count, size - 1) else none
      else none

/-- Two stretches of positions have one in common. -/
def overlap (a b : Nat × Nat) : Bool :=
  a.1 ≤ b.2 && b.1 ≤ a.2

/-- Some two stretches of a list overlap. -/
def anyOverlap : List (Nat × Nat) -> Bool
  | [] => false
  | stretch :: others => others.any (overlap stretch) || anyOverlap others

/-- What becomes of a wish for parts. -/
inductive Selection where
  /-- No parts are asked for. -/
  | whole
  /-- One part is asked for and can be given. -/
  | one (first last : Nat)
  /-- Several parts are asked for, all of which the content has. -/
  | several
  /-- The wish cannot be met. -/
  | unsatisfiable
deriving DecidableEq, Repr

/-- What becomes of a wish for parts of a content of a size. -/
def select (wish : Option String) (size : Nat) : Selection :=
  match wish with
  | none => .whole
  | some wish =>
      match (parts? wish.toList).bind fun parts => parts.mapM (Part.bounds? size) with
      | none => .unsatisfiable
      | some [(first, last)] => .one first last
      | some stretches => if anyOverlap stretches then .unsatisfiable else .several

end Range
end Http
end FlemishDesk
