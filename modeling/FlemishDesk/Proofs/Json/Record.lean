import FlemishDesk.Json.Record
import FlemishDesk.Proofs.Number.Digits

/-!
# Records read from values

A record is read from a value by way of the document of the value.  What is then found
in a field is the last value that an object lists under its name, or the value at its
place in an array; so the reader can be described on values alone.  This holds for the
values that documents say: other values may spell an integer as if it were none.
-/

namespace FlemishDesk
namespace Json

/-! ## Values that documents say -/

/-- Some document says the value. -/
def Said (value : Json) : Prop :=
  ∃ document, ofDocument? document = some value

/-- What is known of a value that a document says: its numbers are spelled as what they
are, and its parts are said by documents as well. -/
def SaidInside : Json -> Prop
  | .natural value => value < Number.wordBound
  | .negative magnitude => 0 < magnitude ∧ magnitude ≤ Number.signedBound
  | .real numeral => ofNumeral? numeral = some (.real numeral)
  | .array items => ∀ item ∈ items, Said item
  | .object fields => ∀ field ∈ fields, Said field.2
  | _ => True

theorem saidInside_of_ofNumeral?
    {numeral : Numeral}
    {value : Json}
    (read : ofNumeral? numeral = some value) :
    SaidInside value := by
  have whole := read
  unfold ofNumeral? at read
  dsimp only at read
  split at read
  · next isNatural =>
      have small : Number.digitsValue numeral.whole < Number.wordBound :=
        of_decide_eq_true (Bool.and_eq_true_iff.mp isNatural).2
      cases read
      exact small
  · split at read
    · next isNegative =>
        cases read
        simp only [Bool.and_eq_true, decide_eq_true_eq] at isNegative
        exact ⟨isNegative.1.2, isNegative.2⟩
    · split at read
      · cases read
      · cases read
        exact whole

theorem said_of_mem_itemsOf?
    {documents : List Document}
    {items : List Json}
    (read : itemsOf? documents = some items) :
    ∀ item ∈ items, Said item := by
  induction documents generalizing items with
  | nil =>
      cases read
      exact List.forall_mem_nil _
  | cons document documents inductionHypothesis =>
      rw [itemsOf?] at read
      split at read
      · next value values first others =>
          cases read
          exact List.forall_mem_cons.mpr ⟨⟨document, first⟩, inductionHypothesis others⟩
      · cases read

theorem said_of_mem_fieldsOf?
    {documents : List (Option String × Document)}
    {fields : List (String × Json)}
    (read : fieldsOf? documents = some fields) :
    ∀ field ∈ fields, Said field.2 := by
  induction documents generalizing fields with
  | nil =>
      cases read
      exact List.forall_mem_nil _
  | cons entry documents inductionHypothesis =>
      obtain ⟨name, document⟩ := entry
      unfold fieldsOf? at read
      split at read
      · next name value values first others =>
          cases read
          exact List.forall_mem_cons.mpr ⟨⟨document, first⟩, inductionHypothesis others⟩
      · cases read

theorem Said.inside {value : Json} (said : Said value) : SaidInside value := by
  obtain ⟨document, read⟩ := said
  cases document with
  | null | bool =>
      rw [ofDocument?] at read
      cases read
      trivial
  | number numeral =>
      rw [ofDocument?] at read
      exact saidInside_of_ofNumeral? read
  | string text =>
      rw [ofDocument?] at read
      obtain ⟨text, _, rfl⟩ := Option.map_eq_some_iff.mp read
      trivial
  | array documents =>
      rw [ofDocument?] at read
      obtain ⟨items, itemsRead, rfl⟩ := Option.map_eq_some_iff.mp read
      exact said_of_mem_itemsOf? itemsRead
  | object documents =>
      rw [ofDocument?] at read
      obtain ⟨fields, fieldsRead, rfl⟩ := Option.map_eq_some_iff.mp read
      exact said_of_mem_fieldsOf? fieldsRead

theorem said_of_readBytes?
    {content : List UInt8}
    {value : Json}
    (read : readBytes? content = some value) :
    Said value := by
  obtain ⟨document, _, within⟩ := Option.bind_eq_some_iff.mp read
  unfold ofDocumentWithin? at within
  split at within
  · exact ⟨document, within⟩
  · cases within

/-- A number that a document says is spelled in its document as that number. -/
theorem Said.ofNumeral?_eq
    {value : Json}
    (said : Said value)
    {numeral : Numeral}
    (spelled : value.toDocument = .number numeral) :
    ofNumeral? numeral = some value := by
  have inside := said.inside
  cases value with
  | natural value =>
      have small : value < Number.wordBound := inside
      rw [toDocument] at spelled
      cases spelled
      simp [ofNumeral?, integerNumeral, small]
  | negative magnitude =>
      obtain ⟨positive, small⟩ : 0 < magnitude ∧ magnitude ≤ Number.signedBound := inside
      rw [toDocument] at spelled
      cases spelled
      simp [ofNumeral?, integerNumeral, positive, small]
  | real spelling =>
      rw [toDocument] at spelled
      cases spelled
      exact inside
  | null | bool | string | array | object =>
      rw [toDocument] at spelled
      cases spelled

/-! ## Documents of values -/

theorem itemDocuments_eq (items : List Json) :
    itemDocuments items = items.map toDocument := by
  induction items with
  | nil => rfl
  | cons item items inductionHypothesis =>
      rw [itemDocuments, inductionHypothesis, List.map_cons]

theorem fieldDocuments_eq (fields : List (String × Json)) :
    fieldDocuments fields = fields.map fun field => (field.1, field.2.toDocument) := by
  induction fields with
  | nil => rfl
  | cons field fields inductionHypothesis =>
      rw [fieldDocuments, inductionHypothesis, List.map_cons]

theorem toDocument_eq_null_iff {value : Json} :
    value.toDocument = .null <-> value = .null := by
  cases value <;> simp [toDocument]

theorem text?_toDocument_eq_some_iff {value : Json} {text : String} :
    value.toDocument.text? = some text <-> value = .string text := by
  cases value <;> simp [toDocument, Document.text?]

theorem bool?_toDocument_eq_some_iff {value : Json} {flag : Bool} :
    value.toDocument.bool? = some flag <-> value = .bool flag := by
  cases value <;> simp [toDocument, Document.bool?]

/-! ## Fields of records -/

/-- Of the fields with one name, the last is kept and no other. -/
theorem filter_keepLast
    {α : Type}
    (name : String)
    (fields : List (String × α)) :
    (keepLast fields).filter (·.1 == name) =
      (fields.reverse.find? (·.1 == name)).toList := by
  induction fields with
  | nil => rfl
  | cons field others inductionHypothesis =>
      rw [keepLast, List.reverse_cons, List.find?_append]
      by_cases named : field.1 = name
      · split
        · next repeated =>
            have found : (others.reverse.find? (·.1 == name)).isSome = true := by
              rw [← named, List.find?_isSome]
              simpa using repeated
            rw [inductionHypothesis, Option.or_of_isSome found]
        · next unique =>
            have missing : others.reverse.find? (·.1 == name) = none := by
              rw [← named, List.find?_eq_none]
              intro other present same
              exact unique
                (List.any_eq_true.mpr ⟨other, List.mem_reverse.mp present, same⟩)
            rw [List.filter_cons_of_pos (by simpa using named), inductionHypothesis,
              missing]
            simp [named]
      · have skipped : [field].find? (·.1 == name) = none := by
          simp [named]
        rw [skipped, Option.or_none, ← inductionHypothesis]
        split
        · rfl
        · exact List.filter_cons_of_neg (by simpa using named)

theorem entriesNamed_toDocument (name : String) (fields : List (String × Json)) :
    entriesNamed name
        ((keepLast (fieldDocuments fields)).map fun field => (some field.1, field.2)) =
      ((lastField? name fields).map toDocument).toList := by
  have sameName : (fun entry : Option String × Document => entry.1 == some name) ∘
      (fun field : String × Document => (some field.1, field.2)) =
        fun field => field.1 == name := by
    funext field
    simp
  rw [entriesNamed, List.filter_map, sameName, filter_keepLast, fieldDocuments_eq,
    ← List.map_reverse, List.find?_map, lastField?]
  simp only [Function.comp_def]
  cases fields.reverse.find? (·.1 == name) <;> rfl

/-- The fields of a record that is written as an object. -/
theorem record?_object
    (names : List String)
    (least : Nat)
    (fields : List (String × Json)) :
    record? names least (toDocument (.object fields)) =
      some (names.map fun name => (lastField? name fields).map toDocument) := by
  have atMostOne (found : Option Document) : ¬ found.toList.length > 1 := by
    cases found <;> simp
  rw [toDocument, record?]
  simp only [entriesNamed_toDocument]
  rw [if_neg (by simp [atMostOne])]
  congr 1
  refine List.map_congr_left fun name _ => ?_
  cases (lastField? name fields).map toDocument <;> rfl

/-- Items that are filled up to a length, place by place. -/
theorem map_some_append_replicate
    {α : Type}
    (items : List α)
    (length : Nat)
    (enough : items.length ≤ length) :
    items.map some ++ List.replicate (length - items.length) none =
      (List.range length).map fun place => items[place]? := by
  refine List.ext_getElem? fun place => ?_
  by_cases given : place < items.length
  · have within : place < length := by omega
    simp [List.getElem?_append_left, given, within]
  · have missing : items[place]? = none := List.getElem?_eq_none (Nat.le_of_not_lt given)
    rw [List.getElem?_append_right (by simpa using given), List.length_map,
      List.getElem?_replicate, List.getElem?_map]
    by_cases within : place < length
    · have filled : place - items.length < length - items.length := by omega
      simp [within, filled, missing]
    · have beyond : ¬ place - items.length < length - items.length := by omega
      simp [within, beyond]

/-- The fields of a record that is written as an array. -/
theorem record?_array
    (names : List String)
    (least : Nat)
    (items : List Json) :
    record? names least (toDocument (.array items)) =
      if least ≤ items.length ∧ items.length ≤ names.length then
        some ((List.range names.length).map fun place => items[place]?.map toDocument)
      else none := by
  rw [toDocument, record?, itemDocuments_eq, List.length_map]
  by_cases fits : least ≤ items.length ∧ items.length ≤ names.length
  · have notOutside :
        ¬ (decide (items.length < least) || decide (items.length > names.length)) := by
      simp only [Bool.or_eq_true, decide_eq_true_eq]
      omega
    have filled := map_some_append_replicate (items.map toDocument) names.length
      (by simpa using fits.2)
    rw [List.length_map] at filled
    rw [if_neg notOutside, if_pos fits, filled]
    simp
  · have outside :
        (decide (items.length < least) || decide (items.length > names.length)) := by
      simp only [Bool.or_eq_true, decide_eq_true_eq]
      omega
    rw [if_pos outside, if_neg fits]

/-! ## Optional fields -/

/-- What a field of a record holds: a value that is written there, or nothing when the
field is missing or null. -/
def Holds {α : Type} (write : α -> Json) (given : Option Json) : Option α -> Prop
  | some value => given = some (write value)
  | none => given = none ∨ given = some .null

theorem optional?_eq_some_iff
    {α : Type}
    {read : Document -> Option α}
    {write : α -> Json}
    (reads : ∀ value content, read (toDocument value) = some content <->
      value = write content)
    (notNull : ∀ content, write content ≠ .null)
    {given : Option Json}
    {content : Option α} :
    optional? read (given.map toDocument) = some content <->
      Holds write given content := by
  cases given with
  | none => cases content <;> simp [optional?, Holds]
  | some value =>
      by_cases isNull : value = .null
      · subst isNull
        cases content with
        | none => simp [toDocument, optional?, Holds]
        | some content => simp [toDocument, optional?, Holds, (notNull content).symm]
      · have unfolded : optional? read (some (toDocument value)) =
            (read (toDocument value)).map some := by
          unfold optional?
          split
          · next missing => cases missing
          · next same =>
              exact absurd (toDocument_eq_null_iff.mp (Option.some.inj same)) isNull
          · next document notNullDocument same => rw [Option.some.inj same]
        rw [Option.map_some, unfolded]
        cases content with
        | none => simp [Holds, isNull]
        | some content => simp [Holds, reads]

end Json
end FlemishDesk
