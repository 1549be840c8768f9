import FlemishDesk.Number.Integer
import FlemishDesk.Text.Cut

/-!
# Requests on the command line

The arguments of the program are a command with its own arguments.  They are read
from left to right, and the first thing that is wrong or asks for help decides.
Options are written with two hyphens, and their values behind an equals sign or as the
next argument.  Two hyphens alone end the options.
-/

namespace FlemishDesk
namespace Command

/-- What the announcer is asked to do. -/
inductive BotAction where
  /-- Announce new releases until stopped. -/
  | watch
  /-- Look for a new release once. -/
  | check (force : Bool)
  /-- Show the announcement of the latest release. -/
  | latest
  /-- Announce a text by hand. -/
  | announce (text : String)
  /-- Switch the mention of everyone. -/
  | toggleEveryone
  /-- Show the settings and the memory. -/
  | showSettings
  /-- Show the links, with words around them or without. -/
  | links (full : Bool)
  /-- Put a text into dialect. -/
  | dialect (text : String)
deriving DecidableEq, Repr

/-- What the interpreter is asked to do. -/
inductive Task where
  | run
  | build
  | check
  | version
  | help
  | snippet
deriving DecidableEq, Repr

/-- The word for a task. -/
def Task.word : Task -> String
  | .run => "run"
  | .build => "build"
  | .check => "check"
  | .version => "version"
  | .help => "help"
  | .snippet => "snippet"

/-- Every task. -/
def Task.all : List Task := [.run, .build, .check, .version, .help, .snippet]

/-- The task that a word asks for. -/
def Task.ofWord? (word : String) : Option Task :=
  Task.all.find? fun task => task.word == word

/-- What the program is asked to do. -/
inductive Request where
  /-- Serve the chat, possibly at another address than the settings say. -/
  | serve (host : Option String) (port : Option Nat)
  /-- Chat once. -/
  | chat (text : String)
  /-- Show how moderation sees a text. -/
  | classify (text : String)
  /-- Something for the announcer. -/
  | bot (action : BotAction)
  /-- Something for the interpreter. -/
  | interpreter (task : Task) (arguments : List String)
deriving DecidableEq, Repr

/-- Why the arguments are no request. -/
inductive Detour where
  /-- They ask for help. -/
  | help
  /-- They ask for the version. -/
  | version
  /-- They are wrong. -/
  | invalid
deriving DecidableEq, Repr

/-! ## Single arguments -/

/-- What an argument looks like. -/
inductive Argument where
  /-- Two hyphens alone. -/
  | divider
  /-- A name after two hyphens, with a value behind an equals sign or without. -/
  | long (name : String) (value : Option String)
  /-- Letters after one hyphen, at least one. -/
  | short (first : Char) (others : List Char)
  /-- Anything else. -/
  | word (text : String)
deriving DecidableEq, Repr

/-- What an argument looks like. -/
def Argument.ofString (text : String) : Argument :=
  match text.toList with
  | ['-', '-'] => .divider
  | '-' :: '-' :: rest =>
      match Text.cut? ['='] rest with
      | some (name, value) => .long (String.ofList name) (some (String.ofList value))
      | none => .long (String.ofList rest) none
  | '-' :: c :: rest => .short c rest
  | _ => .word text

/-- What the name of an argument without a place among the options comes to: a call for
help, or a mistake. -/
def longDetour (name : String) (value : Option String) : Detour :=
  if name == "help" && value.isNone then .help else .invalid

/-- What letters after a hyphen come to: the first letter decides. -/
def shortDetour (first : Char) : Detour :=
  if first == 'h' then .help else .invalid

/-! ## Commands without commands of their own -/

/-- What a command takes. -/
structure Shape where
  /-- The options without a value. -/
  flags : List String
  /-- The options with a value, and which values they take. -/
  options : List (String × (String -> Bool))
  /-- A text is required. -/
  takesText : Bool

/-- What a command was given. -/
structure Given where
  /-- The options without a value. -/
  flags : List String
  /-- The options with their values. -/
  options : List (String × String)
  /-- The text. -/
  text : Option String
deriving DecidableEq, Repr

/-- Nothing. -/
def Given.nothing : Given := ⟨[], [], none⟩

/-- Everything that a command needs was given. -/
def Shape.finish (shape : Shape) (given : Given) : Except Detour Given :=
  if shape.takesText && given.text.isNone then .error .invalid else .ok given

/-- Take a text, if one is still wanted. -/
def Shape.takeText? (shape : Shape) (given : Given) (text : String) : Option Given :=
  if shape.takesText && given.text.isNone then some { given with text := some text }
  else none

/-- Take the value of an option, if the option has none yet and the value fits. -/
def Shape.takeOption? (shape : Shape) (given : Given) (name value : String) :
    Option Given :=
  match shape.options.lookup name with
  | some fits =>
      if (given.options.lookup name).isSome || !fits value then none
      else some { given with options := (name, value) :: given.options }
  | none => none

/-- Take an option without a value, unless it was given before. -/
def Given.takeFlag? (given : Given) (name : String) : Option Given :=
  if given.flags.contains name then none
  else some { given with flags := name :: given.flags }

/-- Read the arguments of a command after the divider: only texts follow. -/
def Shape.readTexts (shape : Shape) (given : Given) : List String -> Except Detour Given
  | [] => shape.finish given
  | text :: others =>
      match shape.takeText? given text with
      | some given => shape.readTexts given others
      | none => .error .invalid

/-- The value of an option that stands as an argument of its own. -/
def separateValue? (argument : String) : Option String :=
  match Argument.ofString argument with
  | .word text => some text
  | _ => none

/-- Read the arguments of a command.  An option without a value behind an equals sign
waits for the next argument. -/
def Shape.read (shape : Shape) (given : Given) (waiting : Option String) :
    List String -> Except Detour Given
  | [] => if waiting.isSome then .error .invalid else shape.finish given
  | argument :: others =>
      match waiting with
      | some name =>
          match (separateValue? argument).bind (shape.takeOption? given name) with
          | some given => shape.read given none others
          | none => .error .invalid
      | none =>
          match Argument.ofString argument with
          | .divider => shape.readTexts given others
          | .short first _ => .error (shortDetour first)
          | .word text =>
              match shape.takeText? given text with
              | some given => shape.read given none others
              | none => .error .invalid
          | .long name value =>
              if shape.flags.contains name then
                match value, given.takeFlag? name with
                | none, some given => shape.read given none others
                | _, _ => .error .invalid
              else if (shape.options.lookup name).isSome then
                match value with
                | none => shape.read given (some name) others
                | some value =>
                    match shape.takeOption? given name value with
                    | some given => shape.read given none others
                    | none => .error .invalid
              else .error (longDetour name value)

/-! ## The commands -/

/-- A command that takes nothing. -/
def bare : Shape := ⟨[], [], false⟩

/-- A command that takes one text. -/
def oneText : Shape := ⟨[], [], true⟩

/-- A command with one option that has no value. -/
def oneFlag (name : String) : Shape := ⟨[name], [], false⟩

/-- The number of a port. -/
def portOf? (text : String) : Option Nat :=
  (Number.signed? text.toList).bind fun value =>
    if 0 ≤ value && value < 65536 then some value.toNat else none

/-- The command that serves the chat. -/
def serveShape : Shape :=
  ⟨[], [("host", fun _ => true), ("port", fun text => (portOf? text).isSome)], false⟩

/-- Read the arguments of a command and make a request of them. -/
def readAs {α : Type} (shape : Shape) (make : Given -> α) (arguments : List String) :
    Except Detour α :=
  (shape.read .nothing none arguments).map make

/-- The text that was given. -/
def Given.theText (given : Given) : String :=
  given.text.getD ""

/-- The words for the actions of the announcer. -/
def botWords : List String :=
  ["watch", "check", "latest", "announce", "toggle-everyone", "config", "links",
    "vlaamsify"]

/-- The words for the commands. -/
def commandWords : List String :=
  ["serve", "chat", "classify", "bot", "plats"]

/-- Help on a command is asked for by the words that lead to it. -/
def helpOn : List String -> Detour
  | [] => .help
  | [word] => if commandWords.contains word || word == "help" then .help else .invalid
  | ["bot", word] => if botWords.contains word || word == "help" then .help else .invalid
  | _ => .invalid

/-- Read an action of the announcer. -/
def readBot : List String -> Except Detour BotAction
  | [] => .error .invalid
  | word :: others =>
      match word with
      | "watch" => readAs bare (fun _ => .watch) others
      | "check" =>
          readAs (oneFlag "force") (fun given => .check (given.flags.contains "force"))
            others
      | "latest" => readAs bare (fun _ => .latest) others
      | "announce" => readAs oneText (fun given => .announce given.theText) others
      | "toggle-everyone" => readAs bare (fun _ => .toggleEveryone) others
      | "config" => readAs bare (fun _ => .showSettings) others
      | "links" =>
          readAs (oneFlag "full") (fun given => .links (given.flags.contains "full"))
            others
      | "vlaamsify" => readAs oneText (fun given => .dialect given.theText) others
      | "help" => .error (helpOn ("bot" :: others))
      | _ =>
          match Argument.ofString word with
          | .long name value => .error (longDetour name value)
          | .short first _ => .error (shortDetour first)
          | _ => .error .invalid

/-- Read the arguments for the interpreter behind its task.  Only a call for help in
front of them is not for the interpreter. -/
def readTaskArguments : List String -> Except Detour (List String)
  | [] => .ok []
  | argument :: others =>
      match Argument.ofString argument with
      | .divider => .ok others
      | .long "help" none => .error .help
      | .long "help" (some _) => .error .invalid
      | .short first letters =>
          if (first :: letters).all (· == 'h') then .error .help
          else .ok (argument :: others)
      | _ => .ok (argument :: others)

/-- Read a task of the interpreter with its arguments. -/
def readTask : List String -> Except Detour Request
  | [] => .error .invalid
  | argument :: others =>
      match Argument.ofString argument, others with
      | .word word, others =>
          match Task.ofWord? word with
          | some task => (readTaskArguments others).map (.interpreter task)
          | none => .error .invalid
      | .divider, word :: others =>
          match Task.ofWord? word with
          | some task => .ok (.interpreter task others)
          | none => .error .invalid
      | .divider, [] => .error .invalid
      | .long name value, _ => .error (longDetour name value)
      | .short first _, _ => .error (shortDetour first)

/-- Read the arguments of the program. -/
def Request.read : List String -> Except Detour Request
  | [] => .error .invalid
  | word :: others =>
      match word with
      | "serve" =>
          readAs serveShape
            (fun given => .serve (given.options.lookup "host")
              ((given.options.lookup "port").bind portOf?))
            others
      | "chat" => readAs oneText (fun given => .chat given.theText) others
      | "classify" => readAs oneText (fun given => .classify given.theText) others
      | "bot" => (readBot others).map .bot
      | "plats" => readTask others
      | "help" => .error (helpOn others)
      | _ =>
          match Argument.ofString word with
          | .long "version" none => .error .version
          | .long name value => .error (longDetour name value)
          | .short 'V' _ => .error .version
          | .short first _ => .error (shortDetour first)
          | _ => .error .invalid

end Command
end FlemishDesk
