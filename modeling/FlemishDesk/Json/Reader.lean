import FlemishDesk.Json.Document
import FlemishDesk.Text.Percent

/-!
# Reading JSON documents

The reader works on symbols: `some c` for a character and `none` for a stretch
of bytes that is no character.  Such a stretch is accepted inside a string, which
is then no text, and nowhere else.  The reader accepts the grammar of RFC 8259
and nothing more: whitespace is space, tab, line feed and carriage return, and a
control character never stands in a string.

Nesting makes the reader recursive.  Every second step into a value takes a symbol
away, so twice the number of symbols bounds the depth of the recursion; `parse?`
supplies that bound.
-/

namespace FlemishDesk
namespace Json

/-- A character of the input, or a stretch of bytes that is no character. -/
abbrev Symbol := Option Char

/-- The whitespace that may stand between tokens. -/
def isSpace (symbol : Symbol) : Bool :=
  symbol == some ' ' || symbol == some '\n' || symbol == some '\t' || symbol == some '\r'

/-- Drop the whitespace at the start. -/
def skipSpace (input : List Symbol) : List Symbol :=
  input.dropWhile isSpace

/-- What follows a fixed word at the start of the input. -/
def afterLiteral? : List Char -> List Symbol -> Option (List Symbol)
  | [], input => some input
  | c :: word, some d :: input => if c = d then afterLiteral? word input else none
  | _ :: _, _ => none

/-- The symbol is a decimal digit. -/
def isDigitSymbol (symbol : Symbol) : Bool :=
  symbol.any Char.isDigit

/-- The decimal digits at the start of the input, and what follows them. -/
def takeDigits (input : List Symbol) : List Char × List Symbol :=
  ((input.takeWhile isDigitSymbol).filterMap id, input.dropWhile isDigitSymbol)

/-- Read the digits before the point: a single zero, or digits that do not start
with one. -/
def whole? (input : List Symbol) : Option (List Char × List Symbol) :=
  match takeDigits input with
  | ([], _) => none
  | ('0' :: _ :: _, _) => none
  | (digits, rest) => some (digits, rest)

/-- Read a point and at least one digit, if there is a point. -/
def fraction? (input : List Symbol) : Option (Option (List Char) × List Symbol) :=
  match input with
  | some '.' :: rest =>
      match takeDigits rest with
      | ([], _) => none
      | (digits, rest) => some (some digits, rest)
  | _ => some (none, input)

/-- Read an exponent mark, a sign and at least one digit, if there is a mark. -/
def exponent? (input : List Symbol) :
    Option (Option (Bool × List Char) × List Symbol) :=
  match input with
  | some c :: rest =>
      if c == 'e' || c == 'E' then
        let (negative, rest) := match rest with
          | some '+' :: more => (false, more)
          | some '-' :: more => (true, more)
          | _ => (false, rest)
        match takeDigits rest with
        | ([], _) => none
        | (digits, rest) => some (some (negative, digits), rest)
      else
        some (none, input)
  | _ => some (none, input)

/-- Read a number. -/
def numeral? (input : List Symbol) : Option (Numeral × List Symbol) := do
  let (negative, rest) := match input with
    | some '-' :: more => (true, more)
    | _ => (false, input)
  let (whole, rest) <- whole? rest
  let (fraction, rest) <- fraction? rest
  let (exponent, rest) <- exponent? rest
  return (⟨negative, whole, fraction, exponent⟩, rest)

/-- One unit of a string: a character, or `none` for bytes or an escape that
stand for no character. -/
abbrev StringUnit := Option Char

/-- The value of four hexadecimal digits. -/
def hexCode? : List Symbol -> Option (Nat × List Symbol)
  | some a :: some b :: some c :: some d :: rest => do
      let a <- Text.Percent.hexValue? a
      let b <- Text.Percent.hexValue? b
      let c <- Text.Percent.hexValue? c
      let d <- Text.Percent.hexValue? d
      return (((a * 16 + b) * 16 + c) * 16 + d, rest)
  | _ => none

/-- A code unit of the first half of a pair. -/
def isHighHalf (code : Nat) : Bool :=
  0xD800 ≤ code && code ≤ 0xDBFF

/-- A code unit of the second half of a pair. -/
def isLowHalf (code : Nat) : Bool :=
  0xDC00 ≤ code && code ≤ 0xDFFF

/-- The character that a pair of code units stands for. -/
def pairedChar (high low : Nat) : Char :=
  Char.ofNat (0x10000 + (high - 0xD800) * 1024 + (low - 0xDC00))

/-- Read the escape of a code unit, which two escapes in a row may form together.
A half of a pair that stands alone is no character. -/
def unicodeEscape? (input : List Symbol) : Option (StringUnit × List Symbol) := do
  let (code, rest) <- hexCode? input
  if isHighHalf code then
    match rest with
    | some '\\' :: some 'u' :: more =>
        let (next, beyond) <- hexCode? more
        if isLowHalf next then
          return (some (pairedChar code next), beyond)
        else
          return (none, rest)
    | _ => return (none, rest)
  else if isLowHalf code then
    return (none, rest)
  else
    return (some (Char.ofNat code), rest)

/-- Read what follows a backslash. -/
def escape? : List Symbol -> Option (StringUnit × List Symbol)
  | some '"' :: rest => some (some '"', rest)
  | some '\\' :: rest => some (some '\\', rest)
  | some '/' :: rest => some (some '/', rest)
  | some 'b' :: rest => some (some '\x08', rest)
  | some 'f' :: rest => some (some '\x0c', rest)
  | some 'n' :: rest => some (some '\n', rest)
  | some 'r' :: rest => some (some '\r', rest)
  | some 't' :: rest => some (some '\t', rest)
  | some 'u' :: rest => unicodeEscape? rest
  | _ => none

/-- Read the units of a string up to and including the closing quote. -/
def units? : Nat -> List Symbol -> Option (List StringUnit × List Symbol)
  | _, some '"' :: rest => some ([], rest)
  | fuel + 1, some '\\' :: rest => do
      let (unit, rest) <- escape? rest
      let (others, rest) <- units? fuel rest
      return (unit :: others, rest)
  | fuel + 1, symbol :: rest =>
      if symbol.any fun c => c.toNat < 0x20 then
        none
      else do
        let (others, rest) <- units? fuel rest
        return (symbol :: others, rest)
  | _, _ => none

/-- The text that units stand for, if all of them are characters. -/
def unitsText (units : List StringUnit) : Option String :=
  (Text.Utf8.characters? units).map String.ofList

/-- Read a string whose opening quote has been read. -/
def stringBody? (input : List Symbol) : Option (Option String × List Symbol) :=
  (units? input.length input).map fun read => (unitsText read.1, read.2)

mutual

/-- Read a value. -/
def value? : Nat -> List Symbol -> Option (Document × List Symbol)
  | 0, _ => none
  | fuel + 1, input =>
      match skipSpace input with
      | some 'n' :: rest =>
          (afterLiteral? "ull".toList rest).map fun rest => (.null, rest)
      | some 't' :: rest =>
          (afterLiteral? "rue".toList rest).map fun rest => (.bool true, rest)
      | some 'f' :: rest =>
          (afterLiteral? "alse".toList rest).map fun rest => (.bool false, rest)
      | some '"' :: rest => (stringBody? rest).map fun read => (.string read.1, read.2)
      | some '[' :: rest =>
          match skipSpace rest with
          | some ']' :: rest => some (.array [], rest)
          | rest => (items? fuel rest).map fun read => (.array read.1, read.2)
      | some '\x7b' :: rest =>
          match skipSpace rest with
          | some '\x7d' :: rest => some (.object [], rest)
          | rest => (fields? fuel rest).map fun read => (.object read.1, read.2)
      | rest => (numeral? rest).map fun read => (.number read.1, read.2)

/-- Read the items of an array up to and including the closing bracket. -/
def items? : Nat -> List Symbol -> Option (List Document × List Symbol)
  | 0, _ => none
  | fuel + 1, input => do
      let (item, rest) <- value? fuel input
      match skipSpace rest with
      | some ']' :: rest => return ([item], rest)
      | some ',' :: rest =>
          let (others, rest) <- items? fuel rest
          return (item :: others, rest)
      | _ => none

/-- Read the fields of an object up to and including the closing brace. -/
def fields? : Nat -> List Symbol -> Option (List (Option String × Document) × List Symbol)
  | 0, _ => none
  | fuel + 1, input =>
      match skipSpace input with
      | some '"' :: rest => do
          let (name, rest) <- stringBody? rest
          match skipSpace rest with
          | some ':' :: rest =>
              let (value, rest) <- value? fuel rest
              match skipSpace rest with
              | some '\x7d' :: rest => return ([(name, value)], rest)
              | some ',' :: rest =>
                  let (others, rest) <- fields? fuel rest
                  return ((name, value) :: others, rest)
              | _ => none
          | _ => none
      | _ => none

end

/-- Read a whole document; only whitespace may follow it. -/
def parse? (input : List Symbol) : Option Document := do
  let (document, rest) <- value? (2 * input.length + 2) input
  if (skipSpace rest).isEmpty then some document else none

/-- Read a document from a text. -/
def parseText? (text : String) : Option Document :=
  parse? (text.toList.map some)

/-- Read a document from bytes. -/
def parseBytes? (content : List UInt8) : Option Document :=
  parse? (Text.Utf8.symbols content)

end Json
end FlemishDesk
