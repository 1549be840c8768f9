/-!
# Shortening a text

Lengths are counted in characters.  A text that fits is returned as it is; a
text that does not fit is cut, and the cut is marked at its end.
-/

namespace FlemishDesk
namespace Text

/-- Cut a text to at most `limit` characters, ending with `suffix` where it is
cut.  When the suffix alone is too long, only its start is kept. -/
def shorten (limit : Nat) (suffix text : List Char) : List Char :=
  if text.length ≤ limit then
    text
  else if suffix.length ≥ limit then
    suffix.take limit
  else
    text.take (limit - suffix.length) ++ suffix

/-- Cut a text to at most `limit` characters, ending with `suffix` where it is
cut. -/
def shortened (limit : Nat) (suffix text : String) : String :=
  String.ofList (shorten limit suffix.toList text.toList)

/-- The first `limit` characters of a text, followed by three dots if there are
more. -/
def preview (limit : Nat) (text : String) : String :=
  if text.length ≤ limit then
    text
  else
    String.ofList (text.toList.take limit) ++ "..."

/-- A text that fits is not changed. -/
theorem shorten_of_length_le
    {limit : Nat}
    {suffix text : List Char}
    (fits : text.length ≤ limit) :
    shorten limit suffix text = text := by
  simp [shorten, fits]

/-- A text that does not fit fills the limit. -/
theorem length_shorten_of_lt
    {limit : Nat}
    {suffix text : List Char}
    (long : limit < text.length) :
    (shorten limit suffix text).length = limit := by
  unfold shorten
  rw [if_neg (Nat.not_le.mpr long)]
  split
  · next noRoom =>
      rw [List.length_take]
      omega
  · next room =>
      rw [List.length_append, List.length_take]
      omega

/-- A shortened text is never longer than the limit. -/
theorem length_shorten_le (limit : Nat) (suffix text : List Char) :
    (shorten limit suffix text).length ≤ limit := by
  by_cases fits : text.length ≤ limit
  · rwa [shorten_of_length_le fits]
  · exact Nat.le_of_eq (length_shorten_of_lt (Nat.lt_of_not_le fits))

end Text
end FlemishDesk
