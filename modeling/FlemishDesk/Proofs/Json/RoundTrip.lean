import FlemishDesk.Proofs.Json.Reading
import FlemishDesk.Proofs.Text.Utf8

/-!
# Reading back written JSON

A value whose numbers are integers of sixty-four bits and that is not nested too deeply
is read back from both of its written forms, the one without whitespace and the one on
several lines, as a text and as bytes.  An object keeps the order of its fields and any
repeated names.
-/

namespace FlemishDesk
namespace Json

/-- The value can be read back: its numbers are integers of sixty-four bits, and arrays
and objects are nested no deeper than a level. -/
def Fits : Nat -> Json -> Prop
  | _, .null => True
  | _, .bool _ => True
  | _, .natural value => value < Number.wordBound
  | _, .negative magnitude => 0 < magnitude ∧ magnitude ≤ Number.signedBound
  | _, .real _ => False
  | _, .string _ => True
  | 0, .array _ => False
  | level + 1, .array items => ∀ item ∈ items, Fits level item
  | 0, .object _ => False
  | level + 1, .object fields => ∀ field ∈ fields, Fits level field.2

/-- A value that fits is written alike in both forms, or it is an array or an object. -/
theorem Fits.cases
    {level : Nat}
    {value : Json}
    (fits : Fits level value) :
    (Spells level value (written value) ∧
        ∀ indentation, indented indentation value = written value) ∨
      (∃ less items, level = less + 1 ∧ value = .array items ∧
        ∀ item ∈ items, Fits less item) ∨
      ∃ less fields, level = less + 1 ∧ value = .object fields ∧
        ∀ field ∈ fields, Fits less field.2 := by
  cases value with
  | null => exact .inl ⟨Spells.null, fun _ => by rw [indented] <;> simp⟩
  | bool value => exact .inl ⟨Spells.bool value, fun _ => by rw [indented] <;> simp⟩
  | natural value =>
      have small : value < Number.wordBound := by simpa [Fits] using fits
      exact .inl ⟨Spells.natural value small, fun _ => by rw [indented] <;> simp⟩
  | negative magnitude =>
      have bounds : 0 < magnitude ∧ magnitude ≤
          Number.signedBound := by simpa [Fits] using fits
      exact .inl ⟨Spells.negative magnitude bounds.1 bounds.2,
        fun _ => by rw [indented] <;> simp⟩
  | real numeral => simp [Fits] at fits
  | string text => exact .inl ⟨Spells.string text, fun _ => by rw [indented] <;> simp⟩
  | array items =>
      cases level with
      | zero => simp [Fits] at fits
      | succ less => exact .inr (.inl ⟨less, items, rfl, rfl, by simpa [Fits] using fits⟩)
  | object fields =>
      cases level with
      | zero => simp [Fits] at fits
      | succ less =>
          refine .inr (.inr ⟨less, fields, rfl, rfl, ?_⟩)
          rw [Fits] at fits
          exact fits

theorem isSpace_nil : IsSpace [] := by
  simp [IsSpace]

/-! ## Without whitespace -/

/-- Items are spelled with commas between them. -/
theorem spellsItems_written
    {level : Nat}
    (first : Json)
    (others : List Json)
    (spells : ∀ item ∈ first :: others, Spells level item (written item)) :
    SpellsItems level (first :: others) (writtenItems (first :: others)) := by
  induction others generalizing first with
  | nil =>
      rw [writtenItems, ← List.append_nil (written first)]
      exact SpellsItems.last (spells first List.mem_cons_self) isSpace_nil
  | cons next others inductionHypothesis =>
      rw [writtenItems]
      exact SpellsItems.cons (spells first List.mem_cons_self)
        (inductionHypothesis next fun item present =>
          spells item (List.mem_cons_of_mem first present))

/-- Fields are spelled with commas between them. -/
theorem spellsFields_written
    {level : Nat}
    (first : String × Json)
    (others : List (String × Json))
    (spells : ∀ field ∈ first :: others, Spells level field.2 (written field.2)) :
    SpellsFields level (first :: others) (writtenFields (first :: others)) := by
  induction others generalizing first with
  | nil =>
      rw [writtenFields,
        ← List.append_nil (quoted first.1.toList ++ ':' :: written first.2)]
      exact SpellsFields.last first.1 (spells first List.mem_cons_self) isSpace_nil
  | cons next others inductionHypothesis =>
      rw [writtenFields]
      exact SpellsFields.cons first.1 (spells first List.mem_cons_self)
        (inductionHypothesis next fun field present =>
          spells field (List.mem_cons_of_mem first present))

/-- The written form of a value spells it. -/
theorem spells_written
    {level : Nat}
    {value : Json}
    (fits : Fits level value) :
    Spells level value (written value) := by
  induction level generalizing value with
  | zero =>
      rcases fits.cases with ⟨spells, _⟩ | ⟨_, _, compound, _⟩ | ⟨_, _, compound, _⟩
      · exact spells
      · simp at compound
      · simp at compound
  | succ level inductionHypothesis =>
      rcases fits.cases with ⟨spells, _⟩ | ⟨less, items, compound, rfl, fit⟩ |
        ⟨less, fields, compound, rfl, fit⟩
      · exact spells
      · obtain rfl := Nat.succ.inj compound
        cases items with
        | nil => exact Spells.emptyArray
        | cons first others =>
            rw [written]
            exact (spellsItems_written first others fun item present =>
              inductionHypothesis (fit item present)).array
      · obtain rfl := Nat.succ.inj compound
        cases fields with
        | nil => exact Spells.emptyObject
        | cons first others =>
            rw [written]
            exact (spellsFields_written first others fun field present =>
              inductionHypothesis (fit field present)).object

/-! ## On several lines -/

theorem isSpace_newline (indentation : Nat) : IsSpace (newline indentation) := by
  intro c present
  rcases List.mem_cons.mp present with rfl | inBlanks
  · decide
  · rw [List.eq_of_mem_replicate inBlanks]
    decide

/-- Items on lines of their own, and the line of the closing bracket. -/
theorem spellsItems_indented
    {level : Nat}
    (outer inner : Nat)
    (first : Json)
    (others : List Json)
    (spells : ∀ item ∈ first :: others, Spells level item (indented inner item)) :
    SpellsItems level (first :: others)
      (indentedItems inner (first :: others) ++ newline outer) := by
  induction others generalizing first with
  | nil =>
      rw [indentedItems]
      exact SpellsItems.last
        ((spells first List.mem_cons_self).space (isSpace_newline inner))
        (isSpace_newline outer)
  | cons next others inductionHypothesis =>
      rw [indentedItems, List.append_assoc, List.cons_append]
      exact SpellsItems.cons
        ((spells first List.mem_cons_self).space (isSpace_newline inner))
        (inductionHypothesis next fun item present =>
          spells item (List.mem_cons_of_mem first present))

/-- Fields on lines of their own, and the line of the closing brace. -/
theorem spellsFields_indented
    {level : Nat}
    (outer inner : Nat)
    (first : String × Json)
    (others : List (String × Json))
    (spells : ∀ field ∈ first :: others, Spells level field.2 (indented inner field.2)) :
    SpellsFields level (first :: others)
      (indentedFields inner (first :: others) ++ newline outer) := by
  have blank : IsSpace [' '] := by simp [IsSpace, isSpace]
  induction others generalizing first with
  | nil =>
      have lines : indentedFields inner [first] ++ newline outer =
          newline inner ++
            ((quoted first.1.toList ++ ':' :: ([' '] ++ indented inner first.2)) ++
            newline outer) := by
        simp [indentedFields]
      rw [lines]
      exact (SpellsFields.last first.1 ((spells first List.mem_cons_self).space blank)
        (isSpace_newline outer)).space (isSpace_newline inner)
  | cons next others inductionHypothesis =>
      have rest := inductionHypothesis next fun field present =>
        spells field (List.mem_cons_of_mem first present)
      have lines : indentedFields inner (first :: next :: others) ++ newline outer =
          newline inner ++
            ((quoted first.1.toList ++ ':' :: ([' '] ++ indented inner first.2)) ++
            ',' :: (indentedFields inner (next :: others) ++ newline outer)) := by
        simp [indentedFields]
      rw [lines]
      exact (SpellsFields.cons first.1 ((spells first List.mem_cons_self).space blank)
        rest).space (isSpace_newline inner)

/-- The form of a value on several lines spells it. -/
theorem spells_indented
    {level : Nat}
    {value : Json}
    (fits : Fits level value)
    (indentation : Nat) :
    Spells level value (indented indentation value) := by
  induction level generalizing value indentation with
  | zero =>
      rcases fits.cases with ⟨spells, alike⟩ | ⟨_, _, compound, _⟩ | ⟨_, _, compound, _⟩
      · rw [alike]
        exact spells
      · simp at compound
      · simp at compound
  | succ level inductionHypothesis =>
      rcases fits.cases with ⟨spells, alike⟩ | ⟨less, items, compound, rfl, fit⟩ |
        ⟨less, fields, compound, rfl, fit⟩
      · rw [alike]
        exact spells
      · obtain rfl := Nat.succ.inj compound
        cases items with
        | nil => exact Spells.emptyArray
        | cons first others =>
            rw [indented, List.cons_append]
            exact (spellsItems_indented indentation (indentation + 1) first others
              fun item present => inductionHypothesis (fit item present) _).array
      · obtain rfl := Nat.succ.inj compound
        cases fields with
        | nil => exact Spells.emptyObject
        | cons first others =>
            rw [indented, List.cons_append]
            exact (spellsFields_indented indentation (indentation + 1) first others
              fun field present => inductionHypothesis (fit field present) _).object

/-! ## Whole texts -/

/-- A text that spells a value, and whitespace behind it, is read as that value. -/
theorem parse?_of_spells
    {value : Json}
    {text space : List Char}
    (spells : Spells maxDepth value text)
    (blank : IsSpace space) :
    (parse? ((text ++ space).map some)).bind ofDocumentWithin? = some value := by
  have trailing : skipSpace (space.map some) = [] := by
    have skipped := skipSpace_append space blank []
    rwa [List.append_nil] at skipped
  have follows : endsValue (space.map some) = true := by
    have ends := endsValue_space blank (show endsValue [] = true from rfl)
    rwa [List.append_nil] at ends
  have enough : text.length ≤ 2 * ((text ++ space).map some).length + 2 := by
    simp only [List.length_map, List.length_append]
    omega
  obtain ⟨document, read, stands, depth⟩ := spells _ (space.map some) enough follows
  rw [← List.map_append] at read
  rw [parse?, read]
  simp [trailing, ofDocumentWithin?, depth, stands]

/-- A value is read back from the bytes of its form without whitespace. -/
theorem readBytes?_compact
    {value : Json}
    (fits : Fits maxDepth value) :
    readBytes? (Text.Utf8.bytes value.compact) = some value := by
  have read := parse?_of_spells (spells_written fits) isSpace_nil
  rw [List.append_nil] at read
  simpa [readBytes?, parseBytes?, Text.Utf8.bytes, compact] using read

/-- A value is read back from its form on several lines, with a line feed at the end. -/
theorem read?_pretty
    {value : Json}
    (fits : Fits maxDepth value) :
    read? (value.pretty ++ "\n") = some value := by
  have blank : IsSpace ['\n'] := by simp [IsSpace, isSpace]
  have read := parse?_of_spells (spells_indented fits 0) blank
  simpa [read?, parseText?, pretty] using read

end Json
end FlemishDesk
