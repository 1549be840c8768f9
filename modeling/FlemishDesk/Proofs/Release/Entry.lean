import FlemishDesk.Proofs.Json.Record
import FlemishDesk.Release.Basic

/-!
# Entries of a listing

An entry of a listing describes a release when it is an object or an array whose fields
are of the right kinds: the identifier has to be there, and everything else may be
missing or null.  The releases of a listing are those that its entries describe, in
order.  An entry that describes no release is passed over, wherever it stands.
-/

namespace FlemishDesk
namespace Release

/-! ## Identifiers -/

theorem Id.ofDocument?_toDocument
    {value : Json}
    (said : value.Said) :
    Id.ofDocument? value.toDocument = Id.ofJson? value := by
  have number {numeral : Json.Numeral} (spelled : value.toDocument = .number numeral) :
      Id.ofDocument? value.toDocument = Id.ofJson? value := by
    rw [spelled, Id.ofDocument?, said.ofNumeral?_eq spelled, Option.bind_some]
  cases value with
  | natural | negative | real => exact number (Json.toDocument.eq_def _)
  | null | bool | string | array | object =>
      rw [Json.toDocument]
      rfl

/-- A value stands for an identifier when it is the JSON form of the identifier. -/
theorem Id.ofJson?_eq_some_iff
    {value : Json}
    (said : value.Said)
    {id : Id} :
    Id.ofJson? value = some id <-> value = id.toJson := by
  have inside := said.inside
  cases value with
  | natural value =>
      have small : value < UInt64.size := inside
      cases id with
      | number word =>
          simp only [Id.ofJson?, Id.toJson, Option.some.injEq, Id.number.injEq,
            Json.natural.injEq]
          constructor
          · rintro rfl
            exact (UInt64.toNat_ofNat_of_lt' small).symm
          · rintro rfl
            exact UInt64.ofNat_toNat
      | text text => simp [Id.ofJson?, Id.toJson]
  | string text => cases id <;> simp [Id.ofJson?, Id.toJson]
  | null | bool | negative | real | array | object =>
      cases id <;> simp [Id.ofJson?, Id.toJson]

/-! ## Descriptions -/

/-- What an entry gives for a field: the last value that an object lists under the name
of the field, or the value at the place of the field in an array. -/
def given (entry : Json) (place : Nat) (name : String) : Option Json :=
  match entry with
  | .object fields => Json.lastField? name fields
  | .array items => items[place]?
  | _ => none

/-- An entry has the shape of a record: it is an object, or an array of at least the
first and at most all of the fields. -/
def IsRecord : Json -> Prop
  | .object _ => True
  | .array items => 1 ≤ items.length ∧ items.length ≤ 8
  | _ => False

/-- An entry of a listing describes a release. -/
structure Describes (entry : Json) (release : Release) : Prop where
  isRecord : IsRecord entry
  id : given entry 0 "id" = some release.id.toJson
  name : Json.Holds .string (given entry 1 "name") release.name
  tagName : Json.Holds .string (given entry 2 "tag_name") release.tagName
  htmlUrl : Json.Holds .string (given entry 3 "html_url") release.htmlUrl
  body : Json.Holds .string (given entry 4 "body") release.body
  draft : Json.Holds .bool (given entry 5 "draft") release.draft
  prerelease : Json.Holds .bool (given entry 6 "prerelease") release.prerelease
  publishedAt : Json.Holds .string (given entry 7 "published_at") release.publishedAt

variable {entry : Json} {release : Release}

theorem said_of_given
    (said : entry.Said)
    {place : Nat}
    {name : String}
    {value : Json}
    (isGiven : given entry place name = some value) :
    value.Said := by
  have inside := said.inside
  unfold given at isGiven
  split at isGiven
  · next fields =>
      obtain ⟨field, found, rfl⟩ := Option.map_eq_some_iff.mp isGiven
      exact inside field (List.mem_reverse.mp (List.mem_of_find?_eq_some found))
  · next items => exact inside value (List.mem_of_getElem? isGiven)
  · cases isGiven

/-- The fields of an entry that has the shape of a record, in order. -/
theorem record?_eq_some_iff {fields : List (Option Json.Document)} :
    Json.record? fieldNames 1 entry.toDocument = some fields <->
      IsRecord entry ∧
        fields =
          [given entry 0 "id", given entry 1 "name", given entry 2 "tag_name",
            given entry 3 "html_url", given entry 4 "body", given entry 5 "draft",
            given entry 6 "prerelease", given entry 7 "published_at"].map
              (Option.map Json.toDocument) := by
  cases entry with
  | object listed =>
      rw [Json.record?_object]
      simp [IsRecord, fieldNames, given, eq_comm]
  | array items =>
      have eight : fieldNames.length = 8 := rfl
      have places : List.range 8 = [0, 1, 2, 3, 4, 5, 6, 7] := rfl
      rw [Json.record?_array, eight, places]
      by_cases isRecord : 1 ≤ items.length ∧ items.length ≤ 8
      · simp [IsRecord, isRecord, given, eq_comm]
      · simp [IsRecord, isRecord]
  | null | bool | natural | negative | real | string =>
      simp [Json.toDocument, Json.record?, IsRecord]

/-- The identifier is read when it is there in its JSON form. -/
theorem required?_id_eq_some_iff
    (said : entry.Said)
    {place : Nat}
    {name : String}
    {id : Id} :
    Json.required? Id.ofDocument? ((given entry place name).map Json.toDocument) =
      some id <->
      given entry place name = some id.toJson := by
  cases isGiven : given entry place name with
  | none => simp [Json.required?]
  | some value =>
      have valueSaid := said_of_given said isGiven
      rw [Json.required?, Option.map_some, Option.bind_some,
        Id.ofDocument?_toDocument valueSaid, Id.ofJson?_eq_some_iff valueSaid,
        Option.some.injEq]

theorem optional?_text_eq_some_iff {given : Option Json} {text : Option String} :
    Json.optional? Json.Document.text? (given.map Json.toDocument) = some text <->
      Json.Holds .string given text :=
  Json.optional?_eq_some_iff (fun _ _ => Json.text?_toDocument_eq_some_iff) nofun

theorem optional?_flag_eq_some_iff {given : Option Json} {flag : Option Bool} :
    Json.optional? Json.Document.bool? (given.map Json.toDocument) = some flag <->
      Json.Holds .bool given flag :=
  Json.optional?_eq_some_iff (fun _ _ => Json.bool?_toDocument_eq_some_iff) nofun

/-- A release is read from an entry when the entry describes it. -/
theorem ofJson?_eq_some_iff (said : entry.Said) :
    ofJson? entry = some release <-> Describes entry release := by
  rw [ofJson?, ofDocument?.eq_def]
  constructor
  · intro read
    split at read
    · next fieldsRead =>
        obtain ⟨isRecord, fields⟩ := record?_eq_some_iff.mp fieldsRead
        simp only [List.map_cons, List.map_nil, List.cons.injEq, and_true] at fields
        obtain ⟨rfl, rfl, rfl, rfl, rfl, rfl, rfl, rfl⟩ := fields
        simp only [Option.bind_eq_bind, Option.bind_eq_some_iff,
          required?_id_eq_some_iff said, optional?_text_eq_some_iff,
          optional?_flag_eq_some_iff] at read
        obtain ⟨id, idRead, name, nameRead, tagName, tagNameRead, htmlUrl, htmlUrlRead,
          body, bodyRead, draft, draftRead, prerelease, prereleaseRead, publishedAt,
          publishedAtRead, same⟩ := read
        cases same
        exact ⟨isRecord, idRead, nameRead, tagNameRead, htmlUrlRead, bodyRead, draftRead,
          prereleaseRead, publishedAtRead⟩
    · cases read
  · intro describes
    rw [record?_eq_some_iff.mpr ⟨describes.isRecord, rfl⟩]
    simp only [List.map_cons, List.map_nil]
    rw [(required?_id_eq_some_iff said).mpr describes.id,
      optional?_text_eq_some_iff.mpr describes.name,
      optional?_text_eq_some_iff.mpr describes.tagName,
      optional?_text_eq_some_iff.mpr describes.htmlUrl,
      optional?_text_eq_some_iff.mpr describes.body,
      optional?_flag_eq_some_iff.mpr describes.draft,
      optional?_flag_eq_some_iff.mpr describes.prerelease,
      optional?_text_eq_some_iff.mpr describes.publishedAt]
    rfl

/-! ## Whole listings -/

/-- The releases that the entries of a listing describe, in order. -/
inductive Yields : List Json -> List Release -> Prop where
  | nil : Yields [] []
  | skip {entry : Json} {entries : List Json} {found : List Release}
      (malformed : ∀ release, ¬ Describes entry release)
      (others : Yields entries found) :
      Yields (entry :: entries) found
  | keep {entry : Json} {entries : List Json} {release : Release} {found : List Release}
      (describes : Describes entry release)
      (others : Yields entries found) :
      Yields (entry :: entries) (release :: found)

theorem yields_filterMap
    {entries : List Json}
    (said : ∀ entry ∈ entries, entry.Said) :
    Yields entries (entries.filterMap ofJson?) := by
  induction entries with
  | nil => exact .nil
  | cons entry entries inductionHypothesis =>
      obtain ⟨entrySaid, othersSaid⟩ := List.forall_mem_cons.mp said
      have others := inductionHypothesis othersSaid
      cases read : ofJson? entry with
      | none =>
          rw [List.filterMap_cons_none read]
          refine .skip (fun release describes => ?_) others
          rw [(ofJson?_eq_some_iff entrySaid).mpr describes] at read
          cases read
      | some release =>
          rw [List.filterMap_cons_some read]
          exact .keep ((ofJson?_eq_some_iff entrySaid).mp read) others

theorem Yields.filterMap_eq
    {entries : List Json}
    {found : List Release}
    (yields : Yields entries found)
    (said : ∀ entry ∈ entries, entry.Said) :
    entries.filterMap ofJson? = found := by
  induction yields with
  | nil => rfl
  | @skip entry entries found malformed _ inductionHypothesis =>
      obtain ⟨entrySaid, othersSaid⟩ := List.forall_mem_cons.mp said
      have unread : ofJson? entry = none := by
        cases read : ofJson? entry with
        | none => rfl
        | some release =>
            exact absurd ((ofJson?_eq_some_iff entrySaid).mp read) (malformed release)
      rw [List.filterMap_cons_none unread, inductionHypothesis othersSaid]
  | @keep entry entries release found describes _ inductionHypothesis =>
      obtain ⟨entrySaid, othersSaid⟩ := List.forall_mem_cons.mp said
      have read := (ofJson?_eq_some_iff entrySaid).mpr describes
      rw [List.filterMap_cons_some read, inductionHypothesis othersSaid]

/-- The entries yield the releases that are read from them, and nothing else. -/
theorem yields_iff
    {entries : List Json}
    (said : ∀ entry ∈ entries, entry.Said)
    {found : List Release} :
    Yields entries found <-> entries.filterMap ofJson? = found := by
  refine ⟨fun yields => yields.filterMap_eq said, ?_⟩
  rintro rfl
  exact yields_filterMap said

/-- A malformed entry does not change what the other entries yield, wherever it
stands. -/
theorem yields_append_cons_iff
    {malformed : Json}
    (noRelease : ∀ release, ¬ Describes malformed release)
    (front rest : List Json)
    (found : List Release) :
    Yields (front ++ malformed :: rest) found <-> Yields (front ++ rest) found := by
  induction front generalizing found with
  | nil =>
      constructor
      · rintro (_ | ⟨_, others⟩ | ⟨describes, others⟩)
        · exact others
        · exact absurd describes (noRelease _)
      · exact fun others => .skip noRelease others
  | cons entry front inductionHypothesis =>
      constructor
      · rintro (_ | ⟨skipped, others⟩ | ⟨describes, others⟩)
        · exact .skip skipped ((inductionHypothesis _).mp others)
        · exact .keep describes ((inductionHypothesis _).mp others)
      · rintro (_ | ⟨skipped, others⟩ | ⟨describes, others⟩)
        · exact .skip skipped ((inductionHypothesis _).mpr others)
        · exact .keep describes ((inductionHypothesis _).mpr others)

end Release
end FlemishDesk
