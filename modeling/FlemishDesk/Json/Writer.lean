import FlemishDesk.Json.Value

/-!
# Writing JSON

Values are written without any whitespace, or on several lines with an
indentation of two spaces per level.  Strings escape the quote, the backslash and
the control characters below the space, and nothing else.  Fields are written in
the order in which the object lists them.
-/

namespace FlemishDesk
namespace Json

/-- The lowercase hexadecimal digit of a number below sixteen. -/
def hexDigit (n : Nat) : Char :=
  if n < 10 then Char.ofNat (0x30 + n) else Char.ofNat (0x61 + (n - 10))

/-- The written form of a character of a string. -/
def escapeChar (c : Char) : List Char :=
  if c = '"' then ['\\', '"']
  else if c = '\\' then ['\\', '\\']
  else if c = '\x08' then ['\\', 'b']
  else if c = '\x0c' then ['\\', 'f']
  else if c = '\n' then ['\\', 'n']
  else if c = '\r' then ['\\', 'r']
  else if c = '\t' then ['\\', 't']
  else if c.toNat < 0x20 then
    ['\\', 'u', '0', '0', hexDigit (c.toNat / 16), hexDigit (c.toNat % 16)]
  else [c]

/-- The written form of a string, quotes included. -/
def quoted (text : List Char) : List Char :=
  '"' :: text.flatMap escapeChar ++ ['"']

/-- The written form of a number that is no integer, with its own digits. -/
def Numeral.written (numeral : Numeral) : List Char :=
  (if numeral.negative then ['-'] else []) ++ numeral.whole ++
    (match numeral.fraction with
      | none => []
      | some digits => '.' :: digits) ++
    (match numeral.exponent with
      | none => []
      | some (negative, digits) => 'e' :: (if negative then '-' :: digits else digits))

mutual

/-- The characters of a value, without whitespace. -/
def written : Json -> List Char
  | .null => "null".toList
  | .bool true => "true".toList
  | .bool false => "false".toList
  | .natural value => Number.decimal value
  | .negative magnitude => '-' :: Number.decimal magnitude
  | .real numeral => numeral.written
  | .string text => quoted text.toList
  | .array items => '[' :: writtenItems items ++ [']']
  | .object fields => '\x7b' :: writtenFields fields ++ ['\x7d']

/-- The items of an array, with commas between them. -/
def writtenItems : List Json -> List Char
  | [] => []
  | [item] => written item
  | item :: next :: others => written item ++ ',' :: writtenItems (next :: others)

/-- The fields of an object, with commas between them. -/
def writtenFields : List (String × Json) -> List Char
  | [] => []
  | [(name, value)] => quoted name.toList ++ ':' :: written value
  | (name, value) :: next :: others =>
      quoted name.toList ++ ':' :: written value ++ ',' :: writtenFields (next :: others)

end

/-- The text of a value, without whitespace. -/
def compact (value : Json) : String :=
  String.ofList value.written

/-- A line feed and the indentation of a level. -/
def newline (level : Nat) : List Char :=
  '\n' :: List.replicate (2 * level) ' '

mutual

/-- The characters of a value on several lines; `level` counts the arrays and
objects around it. -/
def indented (level : Nat) : Json -> List Char
  | .array [] => ['[', ']']
  | .array (item :: others) =>
      '[' :: indentedItems (level + 1) (item :: others) ++ newline level ++ [']']
  | .object [] => ['\x7b', '\x7d']
  | .object (field :: others) =>
      '\x7b' :: indentedFields (level + 1) (field :: others) ++ newline level ++ ['\x7d']
  | value => written value

/-- The items of an array, each on a line of its own. -/
def indentedItems (level : Nat) : List Json -> List Char
  | [] => []
  | [item] => newline level ++ indented level item
  | item :: next :: others =>
      newline level ++ indented level item ++ ',' :: indentedItems level (next :: others)

/-- The fields of an object, each on a line of its own. -/
def indentedFields (level : Nat) : List (String × Json) -> List Char
  | [] => []
  | [(name, value)] =>
      newline level ++ quoted name.toList ++ ':' :: ' ' :: indented level value
  | (name, value) :: next :: others =>
      newline level ++ quoted name.toList ++ ':' :: ' ' :: indented level value ++
        ',' :: indentedFields level (next :: others)

end

/-- The text of a value on several lines. -/
def pretty (value : Json) : String :=
  String.ofList (value.indented 0)

end Json
end FlemishDesk
