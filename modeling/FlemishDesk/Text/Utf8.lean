/-!
# Text as bytes

The bytes of a text are its UTF-8 encoding.  Reading goes the other way one
symbol at a time: a symbol is a character, or `none` for a longest stretch of
bytes that begins like a character and does not finish as one.  A strict reader
refuses the text when any symbol is `none`; a lenient reader shows the
replacement character in its place.
-/

namespace FlemishDesk
namespace Text
namespace Utf8

/-- The UTF-8 encoding of a character. -/
def encodeChar (c : Char) : List UInt8 :=
  let code := c.toNat
  let tail (n : Nat) : UInt8 := UInt8.ofNat (0x80 + n % 64)
  if code < 0x80 then
    [UInt8.ofNat code]
  else if code < 0x800 then
    [UInt8.ofNat (0xC0 + code / 64), tail code]
  else if code < 0x10000 then
    [UInt8.ofNat (0xE0 + code / 4096), tail (code / 64), tail code]
  else
    [UInt8.ofNat (0xF0 + code / 262144), tail (code / 4096), tail (code / 64), tail code]

/-- The UTF-8 encoding of a list of characters. -/
def encode (text : List Char) : List UInt8 :=
  text.flatMap encodeChar

/-- The UTF-8 encoding of a text. -/
def bytes (text : String) : List UInt8 :=
  encode text.toList

/-- A character of which some bytes have been read. -/
structure Pending where
  /-- How many bytes are still to come, the next one not counted. -/
  more : Nat
  /-- The code point bits that have been read. -/
  code : Nat
  /-- The least value the next byte may have. -/
  low : Nat
  /-- The greatest value the next byte may have. -/
  high : Nat
deriving DecidableEq, Repr

/-- What the first byte of a character says. -/
inductive Opening where
  /-- The byte is a whole symbol. -/
  | whole (symbol : Option Char)
  /-- More bytes have to follow. -/
  | partly (pending : Pending)
deriving DecidableEq, Repr

/-- Read the first byte of a character. -/
def opening (byte : UInt8) : Opening :=
  let b := byte.toNat
  if b < 0x80 then .whole (some (Char.ofNat b))
  else if b < 0xC2 then .whole none
  else if b < 0xE0 then .partly ⟨0, b - 0xC0, 0x80, 0xBF⟩
  else if b = 0xE0 then .partly ⟨1, 0, 0xA0, 0xBF⟩
  else if b = 0xED then .partly ⟨1, 0xD, 0x80, 0x9F⟩
  else if b < 0xF0 then .partly ⟨1, b - 0xE0, 0x80, 0xBF⟩
  else if b = 0xF0 then .partly ⟨2, 0, 0x90, 0xBF⟩
  else if b < 0xF4 then .partly ⟨2, b - 0xF0, 0x80, 0xBF⟩
  else if b = 0xF4 then .partly ⟨2, 4, 0x80, 0x8F⟩
  else .whole none

/-- The symbols of a sequence of bytes that continues a character, if one is
pending. -/
def symbolsAfter : Option Pending -> List UInt8 -> List (Option Char)
  | none, [] => []
  | some _, [] => [none]
  | none, byte :: rest =>
      match opening byte with
      | .whole symbol => symbol :: symbolsAfter none rest
      | .partly pending => symbolsAfter (some pending) rest
  | some pending, byte :: rest =>
      let b := byte.toNat
      if pending.low ≤ b && b ≤ pending.high then
        let code := pending.code * 64 + (b - 0x80)
        match pending.more with
        | 0 => some (Char.ofNat code) :: symbolsAfter none rest
        | more + 1 => symbolsAfter (some ⟨more, code, 0x80, 0xBF⟩) rest
      else
        match opening byte with
        | .whole symbol => none :: symbol :: symbolsAfter none rest
        | .partly other => none :: symbolsAfter (some other) rest

/-- The symbols of a sequence of bytes. -/
def symbols (content : List UInt8) : List (Option Char) :=
  symbolsAfter none content

/-- The characters of a sequence of symbols, if all of them are characters. -/
def characters? : List (Option Char) -> Option (List Char)
  | [] => some []
  | none :: _ => none
  | some c :: rest => (characters? rest).map (c :: ·)

/-- The text that a sequence of bytes encodes, if it encodes one. -/
def text? (content : List UInt8) : Option String :=
  (characters? (symbols content)).map String.ofList

/-- The text of a sequence of bytes, with the replacement character for every
stretch that encodes no character. -/
def lenient (content : List UInt8) : String :=
  String.ofList ((symbols content).map (·.getD '\ufffd'))

@[simp]
theorem encode_nil : encode [] = [] := rfl

@[simp]
theorem encode_cons (c : Char) (text : List Char) :
    encode (c :: text) = encodeChar c ++ encode text := rfl

/-- The bytes of two texts in a row are the bytes of the first and then those of
the second. -/
@[simp]
theorem encode_append (first second : List Char) :
    encode (first ++ second) = encode first ++ encode second := by
  simp [encode]

/-- Symbols that are all characters are those characters. -/
@[simp]
theorem characters?_map_some (text : List Char) :
    characters? (text.map some) = some text := by
  induction text with
  | nil => rfl
  | cons c rest inductionHypothesis => simp [characters?, inductionHypothesis]

end Utf8
end Text
end FlemishDesk
