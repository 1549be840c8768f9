import FlemishDesk.Text.Cut

/-!
# Styled text

Text on a terminal may be bold, dimmed or coloured.  A styled text stands between
an opening code and a closing one, also when it is empty.  A closing code inside the
text is followed by the opening code again, so that the style goes on after it.
Without colours a styled text is the bare text.
-/

namespace FlemishDesk
namespace Report

/-- How a text looks on a terminal. -/
inductive Style where
  | bold
  | dimmed
  | red
  | green
  | yellow
  | boldRed
  | boldGreen
deriving DecidableEq, Repr

/-- The numbers of a style between the start and the end of an opening code. -/
def Style.numbers : Style -> String
  | .bold => "1"
  | .dimmed => "2"
  | .red => "31"
  | .green => "32"
  | .yellow => "33"
  | .boldRed => "1;31"
  | .boldGreen => "1;32"

/-- The code that opens a style. -/
def Style.opening (style : Style) : String :=
  "\x1b[" ++ style.numbers ++ "m"

/-- The code that closes every style. -/
def closing : String := "\x1b[0m"

/-- A text in a style, if colours are shown. -/
def paint (colours : Bool) (style : Style) (text : String) : String :=
  if colours then
    style.opening ++ Text.replaced closing (closing ++ style.opening) text ++ closing
  else
    text

@[simp]
theorem paint_false (style : Style) (text : String) : paint false style text = text := rfl

end Report
end FlemishDesk
