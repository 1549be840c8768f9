import FlemishDesk.Text.Cut
import FlemishDesk.Text.Percent

/-!
# Absolute addresses of pages

The canonical form of an address, in which the path has no dot segments and no
character that has to be percent-encoded.
-/

namespace FlemishDesk
namespace Http
namespace Url

/-- The ASCII characters that no part of an address may hold as they are. -/
def isUnsafe (c : Char) : Bool :=
  c == ' ' || c == '"' || c == '<' || c == '>'

/-- The ASCII characters that a path may not hold as they are. -/
def isUnsafeInPath (c : Char) : Bool :=
  isUnsafe c || c == '\x60' || c == '\x7b' || c == '\x7d'

/-- The ASCII characters that a query may not hold as they are. -/
def isUnsafeInQuery (c : Char) : Bool :=
  isUnsafe c || c == '\x27'

/-- The ASCII characters that a fragment may not hold as they are. -/
def isUnsafeInFragment (c : Char) : Bool :=
  isUnsafe c || c == '\x60'

/-- Percent-encode control characters, characters beyond ASCII, and those of a
class. -/
def escape (isEscaped : Char -> Bool) (text : List Char) : List Char :=
  text.flatMap fun c =>
    if c.toNat < 0x20 || c.toNat ≥ 0x7F || isEscaped c then
      (Text.Utf8.encodeChar c).flatMap fun byte =>
        ['%', Text.Percent.hexDigit (byte.toNat / 16),
          Text.Percent.hexDigit (byte.toNat % 16)]
    else
      [c]

/-- A segment that stands for the directory itself. -/
def isSingleDot (segment : List Char) : Bool :=
  let lowered := String.ofList (segment.map Char.toLower)
  lowered == "." || lowered == "%2e"

/-- A segment that stands for the directory above. -/
def isDoubleDot (segment : List Char) : Bool :=
  let lowered := String.ofList (segment.map Char.toLower)
  lowered == ".." || lowered == "%2e." || lowered == ".%2e" || lowered == "%2e%2e"

/-- A segment that names a drive: a letter and a colon or a bar. -/
def isDrive : List Char -> Bool
  | [letter, mark] => letter.isAlpha && (mark == ':' || mark == '|')
  | _ => false

/-- Leave a directory for the one above.  The segments are read backwards.  The
root and a drive are never left. -/
def leave : List (List Char) -> List (List Char)
  | [] => []
  | segment :: others => if isDrive segment then segment :: others else others

/-- Resolve the dot segments of a path.  The segments that are kept are read
backwards. -/
def resolveDots (kept : List (List Char)) : List (List Char) -> List (List Char)
  | [] => kept.reverse
  | [segment] =>
      if isDoubleDot segment then ([] :: leave kept).reverse
      else if isSingleDot segment then ([] :: kept).reverse
      else (segment :: kept).reverse
  | segment :: next :: others =>
      if isDoubleDot segment then resolveDots (leave kept) (next :: others)
      else if isSingleDot segment then resolveDots kept (next :: others)
      else resolveDots (segment :: kept) (next :: others)

/-- The canonical form of a path behind the slash that follows the host. -/
def canonicalPath (path : List Char) : List Char :=
  let segments := Text.splitOn ['/'] (path.map fun c => if c == '\\' then '/' else c)
  Text.joinWith ['/'] ((resolveDots [] segments).map (escape isUnsafeInPath))

/-- The canonical form of a fragment with the mark before it, if there is one. -/
def canonicalFragment : List Char -> List Char
  | [] => []
  | mark :: fragment => mark :: escape isUnsafeInFragment fragment

/-- The canonical form of the path, the query and the fragment that follow the
slash behind the host. -/
def canonicalTail (tail : List Char) : List Char :=
  let tail := tail.filter fun c => c != '\t' && c != '\n' && c != '\r'
  let path := tail.takeWhile fun c => c != '?' && c != '#'
  match tail.dropWhile fun c => c != '?' && c != '#' with
  | '?' :: rest =>
      canonicalPath path ++ '?' :: escape isUnsafeInQuery (rest.takeWhile (· != '#')) ++
        canonicalFragment (rest.dropWhile (· != '#'))
  | rest => canonicalPath path ++ canonicalFragment rest

/-- The canonical form of an absolute address. -/
def canonical (url : String) : String :=
  match Text.cut? "://".toList url.toList with
  | none => url
  | some (scheme, rest) =>
      let host := rest.takeWhile (· != '/')
      match rest.dropWhile (· != '/') with
      | [] => String.ofList (scheme ++ "://".toList ++ host ++ ['/'])
      | _ :: tail =>
          String.ofList (scheme ++ "://".toList ++ host ++ '/' :: canonicalTail tail)

end Url
end Http
end FlemishDesk
