/-!
# Lines of bytes

A line of bytes ends with a line feed, or with the bytes themselves.  A carriage
return before the line feed belongs to the end of the line.
-/

namespace FlemishDesk
namespace Text

/-- Cut bytes after every line feed. -/
def byteLines : List UInt8 -> List (List UInt8)
  | [] => []
  | byte :: rest =>
      if byte == 0x0A then [byte] :: byteLines rest
      else
        match byteLines rest with
        | [] => [[byte]]
        | line :: others => (byte :: line) :: others

/-- Drop the end of a line. -/
def dropByteLineEnd (line : List UInt8) : List UInt8 :=
  match line.reverse with
  | 0x0A :: 0x0D :: rest => rest.reverse
  | 0x0A :: rest => rest.reverse
  | _ => line

end Text
end FlemishDesk
