import FlemishDesk.Json.Value
import FlemishDesk.Json.Writer
import FlemishDesk.Proofs.Number.Digits
import Mathlib.Data.List.DropRight

/-!
# What the JSON reader makes of written values

One lemma for every form of a value: words, numbers, strings, arrays and objects.  A
text is said to spell a value when the reader, given the text and anything that may
follow a value, stops right behind the text with a document that stands for the value.
Spellings are put together like values: of items and fields, with whitespace around
them.
-/

namespace FlemishDesk
namespace Json

/-! ## Whitespace -/

@[simp] theorem skipSpace_append
    (space : List Char)
    (blank : ∀ c ∈ space, isSpace (some c) = true)
    (input : List Symbol) :
    skipSpace (space.map some ++ input) = skipSpace input := by
  induction space with
  | nil => rfl
  | cons c space inductionHypothesis =>
      have first : isSpace (some c) = true := blank c List.mem_cons_self
      have rest := inductionHypothesis fun d present =>
        blank d (List.mem_cons_of_mem c present)
      simpa [skipSpace, first] using rest

theorem skipSpace_cons
    {symbol : Symbol}
    (visible : isSpace symbol = false)
    (input : List Symbol) :
    skipSpace (symbol :: input) = symbol :: input := by
  simp [skipSpace, visible]

theorem skipSpace_idem (input : List Symbol) :
    skipSpace (skipSpace input) = skipSpace input := by
  exact List.dropWhile_idempotent isSpace input

/-- Whitespace in front of a value does not matter. -/
theorem value?_congr
    {first second : List Symbol}
    (same : skipSpace first = skipSpace second)
    (fuel : Nat) :
    value? fuel first = value? fuel second := by
  cases fuel with
  | zero => rw [value?, value?]
  | succ fuel => rw [value?, value?, same]

/-- Whitespace in front of the items of an array does not matter. -/
theorem items?_skipSpace
    (fuel : Nat)
    (input : List Symbol) :
    items? fuel (skipSpace input) = items? fuel input := by
  cases fuel with
  | zero => rw [items?, items?]
  | succ fuel => rw [items?, items?, value?_congr (skipSpace_idem input)]

/-- Whitespace in front of the fields of an object does not matter. -/
theorem fields?_skipSpace
    (fuel : Nat)
    (input : List Symbol) :
    fields? fuel (skipSpace input) = fields? fuel input := by
  cases fuel with
  | zero => rw [fields?, fields?]
  | succ fuel => rw [fields?, fields?, skipSpace_idem]

/-- What may follow a value: nothing, whitespace, or a mark of the text around it. -/
def endsValue : List Symbol -> Bool
  | [] => true
  | symbol :: _ =>
      isSpace symbol || symbol == some ',' || symbol == some ']' || symbol == some '\x7d'

/-! ## Numbers -/

/-- A mark that may follow a value is part of no number. -/
theorem endsValue_cons
    {symbol : Symbol}
    {rest : List Symbol}
    (ends : endsValue (symbol :: rest) = true) :
    isDigitSymbol symbol = false ∧ symbol ≠ some '.' ∧ symbol ≠ some 'e' ∧
      symbol ≠ some 'E' := by
  simp only [endsValue, isSpace, Bool.or_eq_true, beq_iff_eq] at ends
  rcases ends with ((((((rfl | rfl) | rfl) | rfl) | rfl) | rfl) | rfl) <;> decide

/-- All digits of a number are taken, and nothing behind them. -/
theorem takeDigits_append
    (digits : List Char)
    (allDigits : ∀ c ∈ digits, c.isDigit = true)
    (rest : List Symbol)
    (ends : endsValue rest = true) :
    takeDigits (digits.map some ++ rest) = (digits, rest) := by
  induction digits with
  | nil =>
      cases rest with
      | nil => rfl
      | cons symbol rest =>
          have noDigit := (endsValue_cons ends).1
          simp [takeDigits, noDigit]
  | cons c digits inductionHypothesis =>
      have first : isDigitSymbol (some c) = true := allDigits c List.mem_cons_self
      have others := inductionHypothesis fun d present =>
        allDigits d (List.mem_cons_of_mem c present)
      simp only [takeDigits, Prod.mk.injEq] at others ⊢
      rw [List.map_cons, List.cons_append, List.takeWhile_cons_of_pos first,
        List.dropWhile_cons_of_pos first]
      exact ⟨congrArg (c :: ·) others.1, others.2⟩

/-- The digits of a number are read as digits before the point. -/
theorem whole?_decimal
    (n : Nat)
    (rest : List Symbol)
    (ends : endsValue rest = true) :
    whole? ((Number.decimal n).map some ++ rest) = some (Number.decimal n, rest) := by
  rw [whole?, takeDigits_append _ (fun _ => Number.isDigit_of_mem_decimal) rest ends]
  split
  · next empty =>
      exact absurd (Prod.mk.inj empty).1 (Number.decimal_ne_nil n)
  · next zero =>
      have alone := Number.eq_nil_of_decimal_eq_zero_cons (Prod.mk.inj zero).1
      simp at alone
  · next read => rw [read]

theorem fraction?_of_endsValue
    {rest : List Symbol}
    (ends : endsValue rest = true) :
    fraction? rest = some (none, rest) := by
  unfold fraction?
  split
  · exact absurd rfl (endsValue_cons ends).2.1
  · rfl

theorem exponent?_of_endsValue
    {rest : List Symbol}
    (ends : endsValue rest = true) :
    exponent? rest = some (none, rest) := by
  unfold exponent?
  split
  · next c more =>
      obtain ⟨_, _, small, large⟩ := endsValue_cons ends
      have noMark : (c == 'e' || c == 'E') = false := by
        simpa using ⟨fun same => small (by rw [same]), fun same => large (by rw [same])⟩
      rw [noMark]
      rfl
  · rfl

/-- The digits of a number are read as that number. -/
theorem numeral?_natural
    (n : Nat)
    (rest : List Symbol)
    (ends : endsValue rest = true) :
    numeral? ((Number.decimal n).map some ++ rest) =
      some (⟨false, Number.decimal n, none, none⟩, rest) := by
  have noSign : ∀ more, (Number.decimal n).map some ++ rest ≠ some '-' :: more := by
    intro more starts
    cases digits : Number.decimal n with
    | nil => exact Number.decimal_ne_nil n digits
    | cons c others =>
        have isDigit : c.isDigit = true :=
          Number.isDigit_of_mem_decimal (by rw [digits]; simp)
        rw [digits, List.map_cons, List.cons_append] at starts
        have minus : c = '-' := Option.some.inj (List.cons.inj starts).1
        rw [minus] at isDigit
        exact absurd isDigit (by decide)
  rw [numeral?]
  · simp [whole?_decimal n rest ends, fraction?_of_endsValue ends,
      exponent?_of_endsValue ends]
  · exact noSign

/-- A minus sign and the digits of a number are read as the negative number. -/
theorem numeral?_negative
    (n : Nat)
    (rest : List Symbol)
    (ends : endsValue rest = true) :
    numeral? (some '-' :: ((Number.decimal n).map some ++ rest)) =
      some (⟨true, Number.decimal n, none, none⟩, rest) := by
  simp [numeral?, whole?_decimal n rest ends, fraction?_of_endsValue ends,
    exponent?_of_endsValue ends]

/-- What starts with a digit or a minus sign is read as a number. -/
theorem value?_of_numeral
    (fuel : Nat)
    (c : Char)
    (starts : c.isDigit = true ∨ c = '-')
    (input : List Symbol) :
    value? (fuel + 1) (some c :: input) =
      (numeral? (some c :: input)).map fun read => (.number read.1, read.2) := by
  have visible : isSpace (some c) = false := by
    rcases starts with isDigit | rfl
    · by_contra space
      simp only [isSpace, Bool.not_eq_false, Bool.or_eq_true, beq_iff_eq,
        Option.some.injEq] at space
      rcases space with ((rfl | rfl) | rfl) | rfl <;> exact absurd isDigit (by decide)
    · decide
  have different : ∀ d ∈ ['n', 't', 'f', '"', '[', '\x7b'], c ≠ d := by
    intro d present same
    subst same
    rcases starts with isDigit | rfl
    · simp only [List.mem_cons, List.not_mem_nil, or_false] at present
      rcases present with rfl | rfl | rfl | rfl | rfl | rfl <;>
        exact absurd isDigit (by decide)
    · exact absurd present (by decide)
  simp only [List.mem_cons, List.not_mem_nil, or_false, forall_eq_or_imp,
    forall_eq] at different
  rw [value?, skipSpace_cons visible]
  simp [different]

/-! ## Strings -/

theorem hexValue?_hexDigit :
    ∀ n < 16, Text.Percent.hexValue? (hexDigit n) = some n := by
  decide

/-- The escape of a control character is read as that character. -/
theorem escape?_control
    (c : Char)
    (control : c.toNat < 0x20)
    (input : List Symbol) :
    escape? (some 'u' :: some '0' :: some '0' :: some (hexDigit (c.toNat / 16)) ::
      some (hexDigit (c.toNat % 16)) :: input) = some (some c, input) := by
  have zero : Text.Percent.hexValue? '0' = some 0 := by decide
  have high := hexValue?_hexDigit (c.toNat / 16) (by omega)
  have low := hexValue?_hexDigit (c.toNat % 16) (by omega)
  have code : c.toNat / 16 * 16 + c.toNat % 16 = c.toNat := by omega
  have notHigh : isHighHalf c.toNat = false := by
    simp only [isHighHalf, Bool.and_eq_false_iff, decide_eq_false_iff_not]
    omega
  have notLow : isLowHalf c.toNat = false := by
    simp only [isLowHalf, Bool.and_eq_false_iff, decide_eq_false_iff_not]
    omega
  simp [escape?, unicodeEscape?, hexCode?, zero, high, low, code, notHigh, notLow]

/-- One character of a string is read as one unit. -/
theorem units?_escapeChar
    (fuel : Nat)
    (c : Char)
    (input : List Symbol) :
    units? (fuel + 1) ((escapeChar c).map some ++ input) =
      (units? fuel input).map fun read => (some c :: read.1, read.2) := by
  have afterBackslash {code : List Symbol} (escaped : escape? code =
      some (some c, input)) :
      units? (fuel + 1) (some '\\' :: code) =
        (units? fuel input).map fun read => (some c :: read.1, read.2) := by
    cases read : units? fuel input <;> simp [units?, escaped, read]
  unfold escapeChar
  split
  · next quote => exact afterBackslash (by rw [quote]; rfl)
  split
  · next backslash => exact afterBackslash (by rw [backslash]; rfl)
  split
  · next backspace => exact afterBackslash (by rw [backspace]; rfl)
  split
  · next formFeed => exact afterBackslash (by rw [formFeed]; rfl)
  split
  · next lineFeed => exact afterBackslash (by rw [lineFeed]; rfl)
  split
  · next carriageReturn => exact afterBackslash (by rw [carriageReturn]; rfl)
  split
  · next tab => exact afterBackslash (by rw [tab]; rfl)
  split
  · next control => exact afterBackslash (escape?_control c control input)
  · next notQuote notBackslash _ _ _ _ _ plain =>
      have visible :
          (Option.any (fun c : Char => decide (c.toNat < 0x20)) (some c)) = false := by
        simpa using plain
      rw [List.map_singleton, List.singleton_append, units?]
      · rw [visible]
        cases units? fuel input <;> rfl
      · simpa using notQuote
      · simpa using notBackslash

/-- A string is read up to its closing quote. -/
theorem units?_text
    (text : List Char)
    (rest : List Symbol)
    (fuel : Nat)
    (enough : text.length ≤ fuel) :
    units? fuel ((text.flatMap escapeChar).map some ++ some '"' :: rest) =
      some (text.map some, rest) := by
  induction text generalizing fuel with
  | nil => cases fuel <;> rfl
  | cons c text inductionHypothesis =>
      cases fuel with
      | zero => simp at enough
      | succ fuel =>
          have others := inductionHypothesis fuel (by simpa using enough)
          rw [List.flatMap_cons, List.map_append, List.append_assoc, units?_escapeChar,
            others]
          rfl

theorem length_le_escaped (text : List Char) :
    text.length ≤ (text.flatMap escapeChar).length := by
  induction text with
  | nil => simp
  | cons c text inductionHypothesis =>
      have nonempty : 1 ≤ (escapeChar c).length := by
        unfold escapeChar
        repeat' split
        all_goals simp
      simp only [List.length_cons, List.flatMap_cons, List.length_append]
      omega

/-- A quoted text is read as itself. -/
theorem stringBody?_quoted
    (text : String)
    (rest : List Symbol) :
    stringBody? ((text.toList.flatMap escapeChar).map some ++ some '"' :: rest) =
      some (some text, rest) := by
  have enough : text.toList.length ≤
      ((text.toList.flatMap escapeChar).map some ++ some '"' :: rest).length := by
    have longer := length_le_escaped text.toList
    simp only [List.length_append, List.length_map, List.length_cons]
    omega
  rw [stringBody?, units?_text text.toList rest _ enough]
  simp [unitsText]

/-! ## Spellings -/

/-- The reader takes the text for the value, whatever follows it. -/
def Spells (level : Nat) (value : Json) (text : List Char) : Prop :=
  ∀ fuel rest, text.length ≤ fuel -> endsValue rest = true ->
    ∃ document, value? fuel (text.map some ++ rest) = some (document, rest) ∧
      ofDocument? document = some value ∧ document.depth ≤ level

/-- The reader takes the text, and a closing bracket, for the items of an array. -/
def SpellsItems (level : Nat) (values : List Json) (text : List Char) : Prop :=
  ∀ fuel rest, text.length < fuel ->
    ∃ documents,
      items? fuel (text.map some ++ some ']' :: rest) = some (documents, rest) ∧
      itemsOf? documents = some values ∧
      depthOfItems documents ≤ level

/-- The reader takes the text, and a closing brace, for the fields of an object. -/
def SpellsFields (level : Nat) (fields : List (String × Json)) (text : List Char) :
    Prop :=
  ∀ fuel rest, text.length < fuel ->
    ∃ documents,
      fields? fuel (text.map some ++ some '\x7d' :: rest) = some (documents, rest) ∧
      fieldsOf? documents = some fields ∧
      depthOfFields documents ≤ level

/-- The text consists of whitespace. -/
def IsSpace (text : List Char) : Prop :=
  ∀ c ∈ text, isSpace (some c) = true

theorem endsValue_space
    {space : List Char}
    (blank : IsSpace space)
    {rest : List Symbol}
    (ends : endsValue rest = true) :
    endsValue (space.map some ++ rest) = true := by
  cases space with
  | nil => exact ends
  | cons c space => simp [endsValue, blank c List.mem_cons_self]

namespace Spells

variable {level : Nat}

/-- Whitespace may stand in front of a value. -/
theorem space
    {value : Json}
    {text : List Char}
    (spells : Spells level value text)
    {space : List Char}
    (blank : IsSpace space) :
    Spells level value (space ++ text) := by
  intro fuel rest enough ends
  rw [List.length_append] at enough
  obtain ⟨document, read, stands⟩ := spells fuel rest (by omega) ends
  refine ⟨document, ?_, stands⟩
  rw [← read, List.map_append, List.append_assoc]
  exact value?_congr (skipSpace_append space blank _) fuel

/-- A text that is not empty leaves the reader one step. -/
theorem of_succ
    {value : Json}
    {text : List Char}
    (nonempty : text ≠ [])
    (spells : ∀ fuel rest, text.length ≤ fuel + 1 -> endsValue rest = true ->
      ∃ document, value? (fuel + 1) (text.map some ++ rest) = some (document, rest) ∧
        ofDocument? document = some value ∧ document.depth ≤ level) :
    Spells level value text := by
  intro fuel rest enough ends
  have positive := List.length_pos_iff.mpr nonempty
  obtain ⟨less, rfl⟩ : ∃ less, fuel = less + 1 := ⟨fuel - 1, by omega⟩
  exact spells less rest enough ends

theorem null : Spells level .null (written .null) :=
  of_succ (by decide) fun fuel rest _ _ =>
    ⟨.null, by rw [value?]; rfl, rfl, Nat.zero_le level⟩

theorem bool (value : Bool) : Spells level (.bool value) (written (.bool value)) := by
  cases value with
  | false =>
      exact of_succ (by decide) fun fuel rest _ _ =>
        ⟨.bool false, by rw [value?]; rfl, rfl, Nat.zero_le level⟩
  | true =>
      exact of_succ (by decide) fun fuel rest _ _ =>
        ⟨.bool true, by rw [value?]; rfl, rfl, Nat.zero_le level⟩

/-- A natural number of sixty-four bits is spelled by its digits. -/
theorem natural
    (value : Nat)
    (small : value < Number.wordBound) :
    Spells level (.natural value) (written (.natural value)) := by
  refine of_succ
    (by rw [written]; exact Number.decimal_ne_nil value) fun fuel rest _ ends => ?_
  refine ⟨.number ⟨false, Number.decimal value, none, none⟩, ?_, ?_, Nat.zero_le level⟩
  · have read := numeral?_natural value rest ends
    rw [written]
    cases digits : Number.decimal value with
    | nil => exact absurd digits (Number.decimal_ne_nil value)
    | cons c others =>
        have isDigit : c.isDigit = true :=
          Number.isDigit_of_mem_decimal (by rw [digits]; simp)
        rw [digits, List.map_cons, List.cons_append] at read
        rw [List.map_cons, List.cons_append, value?_of_numeral fuel c (.inl isDigit),
          read]
        rfl
  · simp [ofDocument?, ofNumeral?, small]

/-- A negative number of sixty-four bits is spelled by a minus sign and its digits. -/
theorem negative
    (magnitude : Nat)
    (positive : 0 < magnitude)
    (small : magnitude ≤ Number.signedBound) :
    Spells level (.negative magnitude) (written (.negative magnitude)) := by
  refine of_succ (by simp [written]) fun fuel rest _ ends => ?_
  refine ⟨.number ⟨true, Number.decimal magnitude, none, none⟩, ?_, ?_, Nat.zero_le level⟩
  · rw [written, List.map_cons, List.cons_append, value?_of_numeral fuel '-' (.inr rfl),
      numeral?_negative magnitude rest ends]
    rfl
  · simp [ofDocument?, ofNumeral?, positive, small]

/-- A text is spelled by its quoted form. -/
theorem string (text : String) :
    Spells level (.string text) (written (.string text)) := by
  refine of_succ (by simp [written, quoted]) fun fuel rest _ _ => ?_
  refine ⟨.string (some text), ?_, rfl, Nat.zero_le level⟩
  have spelled : (written (.string text)).map some ++ rest =
      some '"' :: ((text.toList.flatMap escapeChar).map some ++ some '"' :: rest) := by
    simp [written, quoted]
  rw [spelled, value?, skipSpace_cons (by decide)]
  simp [stringBody?_quoted]

end Spells

/-! ## Arrays -/

/-- A closing bracket is no value. -/
theorem value?_of_bracket
    {input rest : List Symbol}
    (starts : skipSpace input = some ']' :: rest)
    (fuel : Nat) :
    value? fuel input = none := by
  cases fuel with
  | zero => rw [value?]
  | succ fuel =>
      rw [value?, starts]
      simp [numeral?, whole?, takeDigits, isDigitSymbol]

namespace SpellsItems

variable {level : Nat} {value : Json} {text : List Char}

/-- The last item, with whitespace behind it. -/
theorem last
    (spells : Spells level value text)
    {space : List Char}
    (blank : IsSpace space) :
    SpellsItems level [value] (text ++ space) := by
  intro fuel rest enough
  rw [List.length_append] at enough
  obtain ⟨less, rfl⟩ : ∃ less, fuel = less + 1 := ⟨fuel - 1, by omega⟩
  obtain ⟨document, read, stands, depth⟩ :=
    spells less (space.map some ++ some ']' :: rest)
    (by omega) (endsValue_space blank rfl)
  refine ⟨[document], ?_, ?_, ?_⟩
  · have bracket : skipSpace (some ']' :: rest) = some ']' :: rest :=
      skipSpace_cons (by decide) _
    rw [List.map_append, List.append_assoc, items?, read]
    simp [skipSpace_append space blank, bracket]
  · simp [itemsOf?, stands]
  · simpa [depthOfItems] using depth

/-- An item that others follow. -/
theorem cons
    (spells : Spells level value text)
    {values : List Json}
    {others : List Char}
    (spellsOthers : SpellsItems level values others) :
    SpellsItems level (value :: values) (text ++ ',' :: others) := by
  intro fuel rest enough
  rw [List.length_append, List.length_cons] at enough
  obtain ⟨less, rfl⟩ : ∃ less, fuel = less + 1 := ⟨fuel - 1, by omega⟩
  obtain ⟨document, read, stands, depth⟩ := spells less
    (some ',' :: (others.map some ++ some ']' :: rest)) (by omega) rfl
  obtain ⟨documents, readOthers, standOthers, depthOthers⟩ :=
    spellsOthers less rest (by omega)
  refine ⟨document :: documents, ?_, ?_, ?_⟩
  · rw [List.map_append, List.map_cons, List.append_assoc, List.cons_append, items?, read]
    have comma : skipSpace (some ',' :: (others.map some ++ some ']' :: rest)) =
        some ',' :: (others.map some ++ some ']' :: rest) := skipSpace_cons (by decide) _
    simp [comma, readOthers]
  · simp [itemsOf?, stands, standOthers]
  · rw [depthOfItems]
    exact Nat.max_le.mpr ⟨depth, depthOthers⟩

end SpellsItems

theorem Spells.emptyArray {level : Nat} : Spells (level + 1) (.array []) ['[', ']'] := by
  refine of_succ (by decide) fun fuel rest _ _ =>
    ⟨.array [], ?_, rfl, by simp [Document.depth, depthOfItems]⟩
  rw [value?]
  rfl

/-- An array is spelled by its items between brackets. -/
theorem SpellsItems.array
    {level : Nat}
    {values : List Json}
    {text : List Char}
    (spells : SpellsItems level values text) :
    Spells (level + 1) (.array values) ('[' :: text ++ [']']) := by
  refine Spells.of_succ (by simp) fun fuel rest enough _ => ?_
  simp only [List.length_append, List.length_cons, List.length_nil] at enough
  obtain ⟨documents, read, stand, depth⟩ := spells fuel rest (by omega)
  refine ⟨.array documents, ?_, by simp [ofDocument?, stand],
    by simpa [Document.depth] using depth⟩
  have spelled : ('[' :: text ++ [']']).map some ++ rest =
      some '[' :: (text.map some ++ some ']' :: rest) := by simp
  rw [spelled, value?, skipSpace_cons (by decide)]
  simp only
  split
  · next closes =>
      cases fuel with
      | zero => simp [items?] at read
      | succ fuel => simp [items?, value?_of_bracket closes] at read
  · rw [items?_skipSpace, read]
    rfl

/-! ## Objects -/

namespace SpellsFields

variable {level : Nat}

/-- Whitespace may stand in front of the fields. -/
theorem space
    {fields : List (String × Json)}
    {text : List Char}
    (spells : SpellsFields level fields text)
    {space : List Char}
    (blank : IsSpace space) :
    SpellsFields level fields (space ++ text) := by
  intro fuel rest enough
  rw [List.length_append] at enough
  obtain ⟨documents, read, stand⟩ := spells fuel rest (by omega)
  refine ⟨documents, ?_, stand⟩
  rw [List.map_append, List.append_assoc, ← fields?_skipSpace,
    skipSpace_append space blank, fields?_skipSpace, read]

/-- The symbols of a field, from its opening quote on. -/
theorem symbols_field
    (name : String)
    (text : List Char)
    (rest : List Symbol) :
    (quoted name.toList ++ ':' :: text).map some ++ rest =
      some '"' :: ((name.toList.flatMap escapeChar).map some ++
        some '"' :: (some ':' :: (text.map some ++ rest))) := by
  simp [quoted]

/-- The last field, with whitespace behind it. -/
theorem last
    (name : String)
    {value : Json}
    {text : List Char}
    (spells : Spells level value text)
    {space : List Char}
    (blank : IsSpace space) :
    SpellsFields level [(name, value)]
      ((quoted name.toList ++ ':' :: text) ++ space) := by
  intro fuel rest enough
  simp only [List.length_append, List.length_cons] at enough
  obtain ⟨less, rfl⟩ : ∃ less, fuel = less + 1 := ⟨fuel - 1, by omega⟩
  obtain ⟨document, read, stands, depth⟩ := spells less
    (space.map some ++ some '\x7d' :: rest) (by omega) (endsValue_space blank rfl)
  refine ⟨[(some name, document)], ?_, ?_, ?_⟩
  · rw [List.map_append, List.append_assoc, symbols_field, fields?,
      skipSpace_cons (by decide)]
    have colon : skipSpace (some ':' :: (text.map some ++ (space.map some ++
        some '\x7d' :: rest))) = some ':' :: (text.map some ++ (space.map some ++
        some '\x7d' :: rest)) := skipSpace_cons (by decide) _
    have brace : skipSpace (some '\x7d' :: rest) = some '\x7d' :: rest :=
      skipSpace_cons (by decide) _
    simp [stringBody?_quoted, colon, read, skipSpace_append space blank, brace]
  · simp [fieldsOf?, stands]
  · simpa [depthOfFields] using depth

/-- A field that others follow. -/
theorem cons
    (name : String)
    {value : Json}
    {text : List Char}
    (spells : Spells level value text)
    {fields : List (String × Json)}
    {others : List Char}
    (spellsOthers : SpellsFields level fields others) :
    SpellsFields level ((name, value) :: fields)
      ((quoted name.toList ++ ':' :: text) ++ ',' :: others) := by
  intro fuel rest enough
  simp only [List.length_append, List.length_cons] at enough
  obtain ⟨less, rfl⟩ : ∃ less, fuel = less + 1 := ⟨fuel - 1, by omega⟩
  obtain ⟨document, read, stands, depth⟩ := spells less
    (some ',' :: (others.map some ++ some '\x7d' :: rest)) (by omega) rfl
  obtain ⟨documents, readOthers, standOthers, depthOthers⟩ :=
    spellsOthers less rest (by omega)
  refine ⟨(some name, document) :: documents, ?_, ?_, ?_⟩
  · rw [List.map_append, List.map_cons, List.append_assoc, List.cons_append,
      symbols_field, fields?, skipSpace_cons (by decide)]
    have colon : skipSpace (some ':' :: (text.map some ++ some ',' :: (others.map some ++
        some '\x7d' :: rest))) =
          some ':' :: (text.map some ++ some ',' :: (others.map some ++
        some '\x7d' :: rest)) := skipSpace_cons (by decide) _
    have comma : skipSpace (some ',' :: (others.map some ++ some '\x7d' :: rest)) =
        some ',' :: (others.map some ++ some '\x7d' :: rest) :=
          skipSpace_cons (by decide) _
    simp [stringBody?_quoted, colon, read, comma, readOthers]
  · simp [fieldsOf?, stands, standOthers]
  · rw [depthOfFields]
    exact Nat.max_le.mpr ⟨depth, depthOthers⟩

end SpellsFields

theorem Spells.emptyObject {level : Nat} :
    Spells (level + 1) (.object []) ['\x7b', '\x7d'] := by
  refine of_succ (by decide) fun fuel rest _ _ =>
    ⟨.object [], ?_, rfl, by simp [Document.depth, depthOfFields]⟩
  rw [value?]
  rfl

/-- An object is spelled by its fields between braces. -/
theorem SpellsFields.object
    {level : Nat}
    {fields : List (String × Json)}
    {text : List Char}
    (spells : SpellsFields level fields text) :
    Spells (level + 1) (.object fields) ('\x7b' :: text ++ ['\x7d']) := by
  refine Spells.of_succ (by simp) fun fuel rest enough _ => ?_
  simp only [List.length_append, List.length_cons, List.length_nil] at enough
  obtain ⟨documents, read, stand, depth⟩ := spells fuel rest (by omega)
  refine ⟨.object documents, ?_, by simp [ofDocument?, stand],
    by simpa [Document.depth] using depth⟩
  have spelled : ('\x7b' :: text ++ ['\x7d']).map some ++ rest =
      some '\x7b' :: (text.map some ++ some '\x7d' :: rest) := by simp
  rw [spelled, value?, skipSpace_cons (by decide)]
  simp only
  split
  · next closes =>
      cases fuel with
      | zero => simp [fields?] at read
      | succ fuel => simp [fields?, closes] at read
  · rw [fields?_skipSpace, read]
    rfl

end Json
end FlemishDesk
