/-!
# Whole words

Words are runs of the ASCII letters, digits and the underscore; every other
character, accented letters included, stands between words.  A word occurs as a
whole word where neither neighbour is a word character.
-/

namespace FlemishDesk
namespace Text

/-- An ASCII letter, an ASCII digit or the underscore. -/
def isWordChar (c : Char) : Bool :=
  c.isAlphanum || c == '_'

/-- The whitespace between words: tab, line feed, vertical tab, form feed,
carriage return and space. -/
def isGap (c : Char) : Bool :=
  c == ' ' || (0x9 ≤ c.toNat && c.toNat ≤ 0xD)

/-- The text is empty or starts between words. -/
def startsOutsideWord : List Char -> Bool
  | [] => true
  | c :: _ => !isWordChar c

/-- Two characters are equal up to the case of ASCII letters. -/
def sameLetter (a b : Char) : Bool :=
  a.toLower == b.toLower

/-- What follows `word` at the start of `text`, the case of ASCII letters being
ignored. -/
def afterWord? : List Char -> List Char -> Option (List Char)
  | [], text => some text
  | _ :: _, [] => none
  | letter :: word, c :: text =>
      if sameLetter letter c then afterWord? word text else none

/-- The text starts with `word` as a whole word, the case of ASCII letters being
ignored. -/
def startsWithWord (word text : List Char) : Bool :=
  (afterWord? word text).any startsOutsideWord

/-- `inside` tells whether the character before the text is a word character.
Somewhere in the text a word starts of which `here` holds. -/
def anyWordStart (here : List Char -> Bool) (inside : Bool) : List Char -> Bool
  | [] => false
  | c :: rest =>
      (!inside && here (c :: rest)) || anyWordStart here (isWordChar c) rest

/-- The word occurs in the text as a whole word, letter for letter. -/
def hasWholeWord (word text : List Char) : Bool :=
  anyWordStart
    (fun here => word.isPrefixOf here && startsOutsideWord (here.drop word.length))
    false text

/-- Replace every occurrence of `word` as a whole word, the case of ASCII letters
being ignored.  The form put in its place may depend on the first character that
is found.  The first argument counts the characters of an occurrence that are
still to be passed over; `inside` tells whether the character before is a word
character. -/
def replaceWordFrom (word : List Char) (form : Char -> List Char) :
    Nat -> Bool -> List Char -> List Char
  | _, _, [] => []
  | skipped + 1, _, c :: rest => replaceWordFrom word form skipped (isWordChar c) rest
  | 0, inside, c :: rest =>
      if !inside && startsWithWord word (c :: rest) then
        form c ++ replaceWordFrom word form (word.length - 1) (isWordChar c) rest
      else
        c :: replaceWordFrom word form 0 (isWordChar c) rest

/-- Replace every occurrence of `word` as a whole word, the case of ASCII letters
being ignored. -/
def replaceWord (word : List Char) (form : Char -> List Char) (text : List Char) :
    List Char :=
  replaceWordFrom word form 0 false text

end Text
end FlemishDesk
