/-!
# Maximal runs of characters

A run of a class of characters is a longest nonempty stretch of a text whose
characters are all in the class.
-/

namespace FlemishDesk
namespace Text

/-- Put a run in front of others, unless it is empty.  The run is read
backwards. -/
def closeRun (current : List Char) (others : List (List Char)) : List (List Char) :=
  if current.isEmpty then others else current.reverse :: others

/-- The maximal runs of a text that continues the run `current`, which is read
backwards. -/
def runsAfter (inClass : Char -> Bool) (current : List Char) :
    List Char -> List (List Char)
  | [] => closeRun current []
  | c :: rest =>
      if inClass c then
        runsAfter inClass (c :: current) rest
      else
        closeRun current (runsAfter inClass [] rest)

/-- The maximal runs of a text, in order. -/
def runs (inClass : Char -> Bool) (text : List Char) : List (List Char) :=
  runsAfter inClass [] text

@[simp]
theorem closeRun_nil (others : List (List Char)) : closeRun [] others = others := rfl

@[simp]
theorem closeRun_cons (c : Char) (current : List Char) (others : List (List Char)) :
    closeRun (c :: current) others = (c :: current).reverse :: others := rfl

@[simp]
theorem runs_nil (inClass : Char -> Bool) : runs inClass [] = [] := rfl

end Text
end FlemishDesk
