import FlemishDesk.Release.Id
import FlemishDesk.Release.Moment

/-!
# Releases

A release as a listing describes it.  Only the identifier has to be given.  The
latest release is the one that was published last among those that may be
announced; of several published at one moment, the first in the listing counts.
-/

namespace FlemishDesk

/-- A release of a listing. -/
structure Release where
  /-- What identifies the release. -/
  id : Release.Id
  /-- The title. -/
  name : Option String
  /-- The tag. -/
  tagName : Option String
  /-- The page of the release. -/
  htmlUrl : Option String
  /-- The notes. -/
  body : Option String
  /-- The release is not public yet. -/
  draft : Option Bool
  /-- The release is a preview. -/
  prerelease : Option Bool
  /-- When the release was published. -/
  publishedAt : Option String
deriving DecidableEq, Repr

namespace Release

/-- The names of the fields, in order. -/
def fieldNames : List String :=
  ["id", "name", "tag_name", "html_url", "body", "draft", "prerelease", "published_at"]

/-- The JSON form of an optional text. -/
def optionalText : Option String -> Json
  | none => .null
  | some text => .string text

/-- The JSON form of an optional flag. -/
def optionalFlag : Option Bool -> Json
  | none => .null
  | some flag => .bool flag

/-- The JSON form of a release. -/
def toJson (release : Release) : Json :=
  .object
    [("id", release.id.toJson),
     ("name", optionalText release.name),
     ("tag_name", optionalText release.tagName),
     ("html_url", optionalText release.htmlUrl),
     ("body", optionalText release.body),
     ("draft", optionalFlag release.draft),
     ("prerelease", optionalFlag release.prerelease),
     ("published_at", optionalText release.publishedAt)]

/-- Read a release as a record; as an array it has at least its identifier. -/
def ofDocument? (document : Json.Document) : Option Release :=
  match Json.record? fieldNames 1 document with
  | some [id, name, tagName, htmlUrl, body, draft, prerelease, publishedAt] => do
      let id <- Json.required? Id.ofDocument? id
      let name <- Json.optional? Json.Document.text? name
      let tagName <- Json.optional? Json.Document.text? tagName
      let htmlUrl <- Json.optional? Json.Document.text? htmlUrl
      let body <- Json.optional? Json.Document.text? body
      let draft <- Json.optional? Json.Document.bool? draft
      let prerelease <- Json.optional? Json.Document.bool? prerelease
      let publishedAt <- Json.optional? Json.Document.text? publishedAt
      return ⟨id, name, tagName, htmlUrl, body, draft, prerelease, publishedAt⟩
  | _ => none

/-- The release that a value stands for. -/
def ofJson? (value : Json) : Option Release :=
  ofDocument? value.toDocument

/-- The moment at which a release was published, if it can be read. -/
def published? (release : Release) : Option Moment :=
  release.publishedAt.bind fun text => Moment.parse? text.toList

/-- The release may be announced: it is public, it has a date, and it is no preview
unless previews count. -/
def isEligible (includePrereleases : Bool) (release : Release) : Bool :=
  release.draft == some false &&
    (includePrereleases || release.prerelease == some false) &&
    release.publishedAt.any fun text => !text.isEmpty

/-- The first moment is earlier; a moment that cannot be read is earlier than every
other. -/
def isEarlier : Option Moment -> Option Moment -> Bool
  | none, some _ => true
  | some a, some b => a.isBefore b
  | _, none => false

/-- Of two releases, the second if it was published later, else the first. -/
def later (best next : Release) : Release :=
  if isEarlier best.published? next.published? then next else best

/-- The latest release of a listing that may be announced. -/
def latest? (includePrereleases : Bool) (releases : List Release) : Option Release :=
  match releases.filter (isEligible includePrereleases) with
  | [] => none
  | first :: others => some (others.foldl later first)

end Release
end FlemishDesk
