import FlemishDesk.Text.Blank
import FlemishDesk.Text.CaseData

/-!
# Lowercase text

Lowercasing maps every character to its full lowercase form.  Two characters
need more than the table of single forms: capital I with a dot above becomes
two characters, and capital sigma becomes the final sigma at the end of a word.
A sigma ends a word when a cased character stands before it and none stands
after it, case-ignorable characters being passed over on both sides.
-/

namespace FlemishDesk
namespace Text

/-- Capital I with a dot above, the one character whose lowercase form has two
characters. -/
def dottedCapitalI : Char := 'İ'

/-- Capital sigma, whose lowercase form depends on its surroundings. -/
def capitalSigma : Char := 'Σ'

/-- A code point is a member of a run. -/
def CaseRun.holds (run : CaseRun) (code : Nat) : Bool :=
  run.first ≤ code && code ≤ run.last && (code - run.first) % run.stride == 0

/-- The lowercase form of a character that does not depend on its surroundings
and has one character; a character without such a form stands for itself. -/
def lowerSingle (c : Char) : Char :=
  match lowercaseRuns.find? (·.holds c.toNat) with
  | some run => Char.ofNat (c.toNat + run.shift).toNat
  | none => c

/-- The lowercase form of a character away from any word end. -/
def lowerChar (c : Char) : List Char :=
  if c = dottedCapitalI then ['i', '\u0307'] else [lowerSingle c]

/-- The character has an uppercase, lowercase or titlecase side. -/
def isCased (c : Char) : Bool :=
  inRanges casedRanges c.toNat

/-- The character is passed over in the search for a cased neighbour. -/
def isCaseIgnorable (c : Char) : Bool :=
  inRanges caseIgnorableRanges c.toNat

/-- The first character that is not case-ignorable is cased. -/
def startsCased (text : List Char) : Bool :=
  match text.dropWhile isCaseIgnorable with
  | c :: _ => isCased c
  | [] => false

/-- A sigma with `before` in front of it, read backwards, and `after` behind it
ends a word. -/
def sigmaEndsWord (before after : List Char) : Bool :=
  startsCased before && !startsCased after

/-- The lowercase form of the characters that follow `before`, which is read
backwards. -/
def lowerAfter (before : List Char) : List Char -> List Char
  | [] => []
  | c :: rest =>
      let lowered :=
        if c = capitalSigma then
          [if sigmaEndsWord before rest then 'ς' else 'σ']
        else
          lowerChar c
      lowered ++ lowerAfter (c :: before) rest

/-- The full lowercase form of a text. -/
def lower (text : List Char) : List Char :=
  lowerAfter [] text

/-- The full lowercase form of a text. -/
def lowercase (text : String) : String :=
  String.ofList (lower text.toList)

@[simp]
theorem lowerAfter_nil (before : List Char) : lowerAfter before [] = [] := rfl

@[simp]
theorem lower_nil : lower [] = [] := rfl

end Text
end FlemishDesk
