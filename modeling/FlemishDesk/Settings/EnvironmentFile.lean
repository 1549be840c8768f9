import FlemishDesk.Settings.Basic
import FlemishDesk.Text.Alphanumeric
import FlemishDesk.Text.ByteLine
import FlemishDesk.Text.Utf8

/-!
# Files of variables

A file of variables holds a name, an equals sign and a value per line.  A value may
stand in single quotes, where nothing has a special meaning, or in double quotes.  A
quoted value may go on over several lines.  A backslash takes the meaning from the
character after it, and a dollar sign puts in the value of another variable.  A hash
starts a comment at the start of a line or after a blank character.

The first line that is not of this form ends the reading; the lines before it count.
A variable that is set already keeps its value.
-/

namespace FlemishDesk
namespace Settings
namespace EnvironmentFile

/-! ## Lines -/

/-- Where in a line the reading is. -/
inductive LineState where
  /-- Outside of quotes. -/
  | plain
  /-- After a blank character outside of quotes. -/
  | gap
  /-- After a backslash outside of quotes. -/
  | escape
  /-- In single quotes. -/
  | single
  /-- After a backslash in single quotes. -/
  | singleEscape
  /-- In double quotes. -/
  | double
  /-- After a backslash in double quotes. -/
  | doubleEscape
deriving DecidableEq, Repr

/-- The state after a character that stands outside of quotes. -/
def openState (c : Char) : LineState :=
  if c == '\\' then .escape
  else if c == '"' then .double
  else if c == '\x27' then .single
  else .plain

/-- The state after a character. -/
def LineState.after (c : Char) : LineState -> LineState
  | .plain =>
      if Text.isBlank c && c != '\n' && c != '\r' then .gap else openState c
  | .gap => openState c
  | .escape => .plain
  | .single =>
      if c == '\\' then .singleEscape else if c == '\x27' then .plain else .single
  | .singleEscape => .single
  | .double => if c == '\\' then .doubleEscape else if c == '"' then .plain else .double
  | .doubleEscape => .double

/-- The characters up to a comment, and the state at the end, if no comment
follows. -/
def scan : LineState -> List Char -> List Char × Option LineState
  | state, [] => ([], some state)
  | state, c :: rest =>
      if state == .gap && c == '#' then ([], none)
      else
        let (kept, last) := scan (state.after c) rest
        (c :: kept, last)

/-- Drop the end of a line. -/
def dropLineEnd (line : List Char) : List Char :=
  match line.reverse with
  | '\n' :: '\r' :: rest => rest.reverse
  | '\n' :: rest => rest.reverse
  | _ => line

/-- The lines of a file, with the lines of a quoted value joined, up to the first
that cannot be read.  The first arguments are what has been read of a line that goes
on, and its state. -/
def joinedLines : List Char -> LineState -> List (List UInt8) -> List (List Char)
  | _, _, [] => []
  | before, state, raw :: others =>
      match Text.Utf8.text? raw with
      | none => []
      | some text =>
          let line := before ++ text.toList
          if (Text.trimStart line).head? == some '#' then
            [] :: joinedLines [] .plain others
          else
            match scan state text.toList with
            | (kept, none) => (before ++ kept) :: joinedLines [] .plain others
            | (_, some .plain) => dropLineEnd line :: joinedLines [] .plain others
            | (_, some unfinished) => joinedLines line unfinished others

/-! ## Values -/

/-- Where in a value the reading is. -/
inductive ValueState where
  /-- Outside of quotes. -/
  | plain
  /-- After a backslash outside of quotes. -/
  | escape
  /-- In single quotes. -/
  | single
  /-- In double quotes. -/
  | double
  /-- After a backslash in double quotes. -/
  | doubleEscape
  /-- In the name of a variable after a dollar sign. -/
  | name (quoted : Bool) (letters : List Char)
  /-- In the name of a variable in braces. -/
  | braced (quoted : Bool) (letters : List Char)
  /-- After the value. -/
  | ended
deriving DecidableEq, Repr

/-- The state outside or inside of double quotes. -/
def ValueState.resume (quoted : Bool) : ValueState :=
  if quoted then .double else .plain

/-- What a character after a backslash stands for. -/
def escaped? (c : Char) : Option Char :=
  if c == 'n' then some '\n'
  else if c == '\\' || c == '\x27' || c == '"' || c == '$' || c == ' ' then some c
  else none

/-- The value of the variable with a name, or nothing. -/
def substitute (lookup : Lookup) (letters : List Char) : List Char :=
  ((lookup (String.ofList letters)).getD "").toList

/-- The text of a value, if it is well formed.  A character that ends the name of a
variable without braces stands for itself, whatever it is. -/
def value? (lookup : Lookup) : ValueState -> List Char -> Option (List Char)
  | .plain, [] | .escape, [] | .ended, [] => some []
  | .name false letters, [] => some (substitute lookup letters)
  | .single, [] | .double, [] | .doubleEscape, [] | .name true _, [] | .braced _ _, [] =>
      none
  | .plain, c :: rest =>
      if c == '$' then value? lookup (.name false []) rest
      else if c == '\x27' then value? lookup .single rest
      else if c == '"' then value? lookup .double rest
      else if c == '\\' then value? lookup .escape rest
      else if c == ' ' || c == '\t' then value? lookup .ended rest
      else (value? lookup .plain rest).map (c :: ·)
  | .escape, c :: rest => do
      let c <- escaped? c
      let others <- value? lookup .plain rest
      return c :: others
  | .single, c :: rest =>
      if c == '\x27' then value? lookup .plain rest
      else (value? lookup .single rest).map (c :: ·)
  | .double, c :: rest =>
      if c == '$' then value? lookup (.name true []) rest
      else if c == '"' then value? lookup .plain rest
      else if c == '\\' then value? lookup .doubleEscape rest
      else (value? lookup .double rest).map (c :: ·)
  | .doubleEscape, c :: rest => do
      let c <- escaped? c
      let others <- value? lookup .double rest
      return c :: others
  | .name quoted letters, c :: rest =>
      if Text.isAlphanumeric c then value? lookup (.name quoted (letters ++ [c])) rest
      else if c == '\x7b' && letters.isEmpty then value? lookup (.braced quoted []) rest
      else if c == '$' then
        (value? lookup (.name quoted []) rest).map (substitute lookup letters ++ ·)
      else
        (value? lookup (.resume quoted) rest).map (substitute lookup letters ++ c :: ·)
  | .braced quoted letters, c :: rest =>
      if c == '\x7d' then
        (value? lookup (.resume quoted) rest).map (substitute lookup letters ++ ·)
      else value? lookup (.braced quoted (letters ++ [c])) rest
  | .ended, c :: rest =>
      if c == ' ' || c == '\t' then value? lookup .ended rest
      else if c == '#' then some []
      else none

/-! ## Assignments -/

/-- A character that may start the name of a variable. -/
def isNameStart (c : Char) : Bool :=
  c.isAlpha || c == '_'

/-- A character that may stand in the name of a variable. -/
def isNameChar (c : Char) : Bool :=
  c.isAlphanum || c == '_' || c == '.'

/-- The name at the start of a text, and what comes after it and the blank
characters behind it. -/
def name? (text : List Char) : Option (List Char × List Char) :=
  if text.head?.any isNameStart then
    some (text.takeWhile isNameChar, Text.trimStart (text.dropWhile isNameChar))
  else
    none

/-- What comes after an equals sign. -/
def afterEquals? : List Char -> Option (List Char)
  | '=' :: rest => some rest
  | _ => none

/-- The name that a line sets and the text of its value.  The word for exporting may
stand before the name; it may also be a name itself. -/
def assignment? (line : List Char) : Option (List Char × List Char) := do
  let (name, rest) <- name? line
  match afterEquals? rest with
  | some value => return (name, value)
  | none =>
      if name == "export".toList then
        let (name, rest) <- name? rest
        let value <- afterEquals? rest
        return (name, value)
      else none

/-- What a line says. -/
inductive Entry where
  /-- The line says nothing. -/
  | blank
  /-- The line sets a variable. -/
  | assignment (name value : String)
  /-- The line is not well formed. -/
  | malformed
deriving DecidableEq, Repr

/-- Nothing but a comment is left. -/
def isOver (text : List Char) : Bool :=
  text.isEmpty || text.head? == some '#'

/-- What a line says. -/
def entry (lookup : Lookup) (line : List Char) : Entry :=
  let line := Text.trim line
  if isOver line then .blank
  else
    match assignment? line with
    | none => .malformed
    | some (name, rest) =>
        let rest := Text.trimStart rest
        if isOver rest then .assignment (String.ofList name) ""
        else
          match value? lookup .plain rest with
          | none => .malformed
          | some value => .assignment (String.ofList name) (String.ofList value)

/-! ## Loading -/

/-- Variables with their values; the first value of a name counts. -/
abbrev Environment := List (String × String)

/-- What stands behind a name and an equals sign in a variable that is written with
an equals sign between its own name and its value.  A name that holds an equals sign
reaches into the value. -/
def valueBehind? (name : List Char) (entry : String × String) : Option String :=
  let start := name ++ ['=']
  let written := entry.1.toList ++ '=' :: entry.2.toList
  if start.isPrefixOf written then some (String.ofList (written.drop start.length))
  else none

/-- Look a variable up.  No variable has an empty name. -/
def Environment.find (environment : Environment) : Lookup := fun name =>
  if name.isEmpty then none else environment.findSome? (valueBehind? name.toList)

/-- Set a variable, unless it is set already.  No variable can hold a NUL. -/
def setNew? (environment : Environment) (name value : String) : Option Environment :=
  if (environment.find name).isSome then some environment
  else if value.toList.contains '\x00' then none
  else some ((name, value) :: environment)

/-- Set the variables of lines that are not set yet, up to the first line that is not
well formed.  A line sees the variables that the lines before it have set. -/
def setFrom? (environment : Environment) : List (List Char) -> Option Environment
  | [] => some environment
  | line :: others =>
      match entry environment.find line with
      | .malformed => some environment
      | .blank => setFrom? environment others
      | .assignment name value =>
          match setNew? environment name value with
          | none => none
          | some environment => setFrom? environment others

/-- Drop a mark of the byte order. -/
def dropMark : List UInt8 -> List UInt8
  | 0xEF :: 0xBB :: 0xBF :: rest => rest
  | content => content

/-- Set the variables of a file that are not set yet, if all of them can be set. -/
def load? (environment : Environment) (content : List UInt8) : Option Environment :=
  setFrom? environment (joinedLines [] .plain (Text.byteLines (dropMark content)))

end EnvironmentFile
end Settings
end FlemishDesk
