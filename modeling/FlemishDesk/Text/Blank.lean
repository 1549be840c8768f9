/-!
# Blank characters and trimming

A character is blank when it has the White_Space property.  Trimming removes
blank characters from the ends of a text and never touches its inside.  The
functions on `List Char` carry the rules; the functions on `String` apply them
to whole texts.
-/

namespace FlemishDesk
namespace Text

/-- A code point lies in one of a list of closed intervals. -/
def inRanges (ranges : List (Nat × Nat)) (code : Nat) : Bool :=
  ranges.any fun range => range.1 ≤ code && code ≤ range.2

/-- The code points with the White_Space property, as closed intervals. -/
def blankRanges : List (Nat × Nat) :=
  [(0x9, 0xD), (0x20, 0x20), (0x85, 0x85), (0xA0, 0xA0), (0x1680, 0x1680),
    (0x2000, 0x200A),
   (0x2028, 0x2029), (0x202F, 0x202F), (0x205F, 0x205F), (0x3000, 0x3000)]

/-- A blank character has the White_Space property. -/
def isBlank (c : Char) : Bool :=
  inRanges blankRanges c.toNat

/-- Drop the blank characters at the start. -/
def trimStart (text : List Char) : List Char :=
  text.dropWhile isBlank

/-- Drop the blank characters at the end. -/
def trimEnd (text : List Char) : List Char :=
  (text.reverse.dropWhile isBlank).reverse

/-- Drop the blank characters at both ends. -/
def trim (text : List Char) : List Char :=
  trimEnd (trimStart text)

/-- The text without the blank characters at its ends. -/
def trimmed (text : String) : String :=
  String.ofList (trim text.toList)

/-- A blank text has no character that is not blank. -/
def blank (text : String) : Bool :=
  text.toList.all isBlank

/-- Drop every trailing occurrence of one character. -/
def dropTrailing (c : Char) (text : String) : String :=
  String.ofList (text.toList.reverse.dropWhile (· == c)).reverse

@[simp]
theorem trimStart_nil : trimStart [] = [] := rfl

/-- A text without blank characters has nothing to trim. -/
theorem trim_of_not_isBlank
    {text : List Char}
    (solid : ∀ c ∈ text, isBlank c = false) :
    trim text = text := by
  have keeps : ∀ chars : List Char, (∀ c ∈ chars, isBlank c = false) ->
      chars.dropWhile isBlank = chars := by
    intro chars solidChars
    cases chars with
    | nil => rfl
    | cons c rest =>
        rw [List.dropWhile_cons, solidChars c List.mem_cons_self]
        rfl
  rw [trim, trimStart, keeps text solid, trimEnd, keeps _ (by simpa using solid),
    List.reverse_reverse]

end Text
end FlemishDesk
