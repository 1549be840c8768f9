import FlemishDesk.Http.Date
import FlemishDesk.Http.MediaType
import FlemishDesk.Http.Message
import FlemishDesk.Http.Range
import FlemishDesk.Storage.Disk

/-!
# Serving files

A site is a directory of a disk.  A request path is percent-decoded and must be made of
plain names, which lead from the directory to a file.  A directory below it is answered
with its index file, or with a redirection when the slash at the end is missing.  A
request can be bound to the time of the last change, and can ask for a part of a file.
-/

namespace FlemishDesk
namespace Server

/-- The files of a site. -/
structure Site where
  /-- The disk that the files are on. -/
  disk : Storage.Disk
  /-- The path of the directory that the files are in. -/
  root : Storage.Path
  /-- When the files were last changed, in seconds from the start of 1970. -/
  changed : Nat
deriving DecidableEq, Repr

/-- The names of a request path, if it decodes to a relative path that does not
step upwards. -/
def pathNames? (path : String) : Option (List Storage.Name) := do
  let decoded <- Text.Utf8.text? (Text.Percent.decode (path.toList.dropWhile (· == '/')))
  let path := Storage.Path.ofText decoded
  if path.isAbsolute then
    none
  else
    let names := path.names.filter (· != [Storage.dot])
    if names.contains [Storage.dot, Storage.dot] then none else some names

namespace Site

/-- The path of names below the directory of the site. -/
def pathOf (site : Site) (names : List Storage.Name) : Storage.Path :=
  names.foldl Storage.Path.below site.root

/-- The response to a condition on the time of the last change that does not hold. -/
def unmet? (site : Site) (headers : Http.Headers) : Option Http.Response :=
  let time? (name : String) : Option Nat := (headers.first? name).bind Http.Date.read?
  if (time? "if-unmodified-since").any (· < site.changed) then some (.empty 412 [])
  else if (time? "if-modified-since").any (site.changed ≤ ·) then some (.empty 304 [])
  else none

/-- What is said to a request for several parts of a file. -/
def severalParts : String := "Cannot serve multipart range requests"

/-- The response with a file or the part of it that is asked for. -/
def deliver (request : Http.Request) (type : String) (content : List UInt8) :
    Http.Response :=
  let headers := [("content-type", type)]
  match Http.Range.select (request.headers.readable? "range") content.length with
  | .whole => ⟨200, headers, content⟩
  | .one first last => ⟨206, headers, (content.drop first).take (last - first + 1)⟩
  | .several => ⟨416, headers, Text.Utf8.bytes severalParts⟩
  | .unsatisfiable => .empty 416 headers

/-- The response to a request for a file that cannot be read.  A path that no file can
have is as good as missing, unless only the header is asked for. -/
def unreadable (method : String) : Storage.Error -> Http.Response
  | .missing | .denied | .notDirectory => .empty 404 []
  | .invalidName => .empty (if method == "HEAD" then 500 else 404) []
  | _ => .empty 500 []

/-- The response with the file that names lead to. -/
def serve (site : Site) (request : Http.Request) (names : List Storage.Name) :
    Http.Response :=
  match site.disk.read [] (site.pathOf names) with
  | .error error => unreadable request.method error
  | .ok content =>
      match site.unmet? request.headers with
      | some response => response
      | none =>
          let name := Text.Utf8.lenient (names.getLastD [])
          deliver request (Http.MediaType.ofName name.toList) content

/-- The response to a request for a directory without a slash behind its path.  A
request that names nothing but a host has no path that a slash could follow. -/
def redirect (target : Http.Target) : Http.Response :=
  match target.withSlash? with
  | some location => .empty 307 [("location", location)]
  | none => .empty 500 []

/-- The response to a request for a file. -/
def respond (site : Site) (request : Http.Request) : Http.Response :=
  if request.method != "GET" && request.method != "HEAD" then
    .empty 405 [("allow", "GET,HEAD")]
  else
    match pathNames? request.path with
    | none => .empty 404 []
    | some names =>
        if site.disk.hasDirectory [] (site.pathOf names) then
          if (Storage.Path.ofText request.path).endsInSlash then
            site.serve request (names ++ [Text.Utf8.bytes "index.html"])
          else
            redirect request.target
        else
          site.serve request names

end Site
end Server
end FlemishDesk
