import FlemishDesk.Text.Cut

/-!
# Targets of requests

A request names its target in one of four forms: a path with an optional query, an
absolute address, the name of a host alone, or an asterisk.  A fragment says nothing
to a server and is dropped.
-/

namespace FlemishDesk
namespace Http

/-- What a request asks for. -/
structure Target where
  /-- The scheme of an absolute address. -/
  scheme : Option String
  /-- The host, with whatever belongs to it, if the target names one. -/
  authority : Option String
  /-- The path; it is empty when the target is a host alone. -/
  path : String
  /-- The query, if there is one. -/
  query : Option String
deriving DecidableEq, Repr

namespace Target

/-- The target without a host that has a path and a query behind a question mark. -/
def ofPath (text : List Char) : Target :=
  let text := text.takeWhile (· != '#')
  { scheme := none
    authority := none
    path := String.ofList (text.takeWhile (· != '?'))
    query :=
      match text.dropWhile (· != '?') with
      | [] => none
      | _ :: query => some (String.ofList query) }

/-- The two schemes that are known are written in lowercase letters. -/
def schemeText (scheme : List Char) : String :=
  let lowered := String.ofList (scheme.map Char.toLower)
  if lowered == "http" || lowered == "https" then lowered else String.ofList scheme

/-- A character of the name of a scheme. -/
def isSchemeChar (c : Char) : Bool :=
  c.isAlphanum || c == '+' || c == '-' || c == '.'

/-- A character at which the host of an absolute address ends. -/
def endsAuthority (c : Char) : Bool :=
  c == '/' || c == '?' || c == '#'

/-- The target of an absolute address, whose path is never empty. -/
def ofAddress (scheme rest : List Char) : Target :=
  let tail := ofPath (rest.dropWhile fun c => !endsAuthority c)
  { tail with
    scheme := some (schemeText scheme)
    authority := some (String.ofList (rest.takeWhile fun c => !endsAuthority c))
    path := if tail.path.isEmpty then "/" else tail.path }

/-- Read a target. -/
def read (text : String) : Target :=
  if text.toList.head? == some '/' || text == "*" then ofPath text.toList
  else
    match Text.cut? "://".toList text.toList with
    | some (scheme, rest) =>
        if scheme.all isSchemeChar then ofAddress scheme rest
        else ⟨none, some text, "", none⟩
    | none => ⟨none, some text, "", none⟩

/-- The address of the target with a slash behind its path.  A host alone has no such
address. -/
def withSlash? (target : Target) : Option String :=
  if target.path.isEmpty then none
  else
    let start := (target.scheme.elim "" (· ++ "://")) ++ target.authority.getD ""
    some (start ++ target.path ++ "/" ++ target.query.elim "" ("?" ++ ·))

end Target
end Http
end FlemishDesk
