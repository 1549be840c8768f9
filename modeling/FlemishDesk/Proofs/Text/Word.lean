import FlemishDesk.Proofs.Text.Run
import FlemishDesk.Text.Word
import Mathlib.Data.List.SplitBy

/-!
# Whole words of a text

A text is cut into its words and the characters between them.  A word is a whole word of
the text exactly when it is one of the pieces, so replacing a word wherever it stands as
a whole word means exchanging pieces.  Where words start and end can also be told from
the neighbours of an occurrence.
-/

namespace FlemishDesk
namespace Text

/-! ## Words and what stands between them -/

/-- The text does not continue a word. -/
def StartsOutside (text : List Char) : Prop :=
  ∀ c ∈ text.head?, isWordChar c = false

/-- The text does not end inside a word. -/
def EndsOutside (text : List Char) : Prop :=
  ∀ c ∈ text.getLast?, isWordChar c = false

/-- A nonempty run of word characters. -/
structure IsWord (word : List Char) : Prop where
  nonempty : word ≠ []
  inside : ∀ c ∈ word, isWordChar c = true

theorem startsOutsideWord_iff (text : List Char) :
    startsOutsideWord text = true <-> StartsOutside text := by
  cases text <;> simp [startsOutsideWord, StartsOutside]

/-- A text is empty, or it starts with a character between words or with a whole
word. -/
@[elab_as_elim]
theorem word_induction
    {motive : List Char -> Prop}
    (nil : motive [])
    (between : ∀ c rest, isWordChar c = false -> motive rest -> motive (c :: rest))
    (word : ∀ word rest, IsWord word -> StartsOutside rest -> motive rest ->
      motive (word ++ rest))
    (text : List Char) :
    motive text := by
  have maximal := maximalRuns_runs isWordChar text
  generalize runs isWordChar text = found at maximal
  induction maximal with
  | nil => exact nil
  | skip outside _ inductionHypothesis => exact between _ _ outside inductionHypothesis
  | run nonempty inside ends _ inductionHypothesis =>
      exact word _ _ ⟨nonempty, inside⟩ ends inductionHypothesis

/-- A text cut into its words and the characters between them: neighbours are left
together when both are word characters. -/
def wordPieces (text : List Char) : List (List Char) :=
  text.splitBy fun c d => isWordChar c && isWordChar d

@[simp] theorem flatten_wordPieces (text : List Char) : (wordPieces text).flatten =
  text :=
  List.flatten_splitBy _ text

theorem wordPieces_cons
    {c : Char}
    (outside : isWordChar c = false)
    (rest : List Char) :
    wordPieces (c :: rest) = [c] :: wordPieces rest := by
  have apart :
      ∀ x ∈ [c].getLast?, ∀ y ∈ rest.head?, (isWordChar x && isWordChar y) = false := by
    intro x isLast y _
    obtain rfl : c = x := by simpa using isLast
    rw [outside, Bool.false_and]
  exact List.splitBy_append apart

theorem wordPieces_append
    {word rest : List Char}
    (isWord : IsWord word)
    (ends : StartsOutside rest) :
    wordPieces (word ++ rest) = word :: wordPieces rest := by
  have apart :
      ∀ x ∈ word.getLast?, ∀ y ∈ rest.head?, (isWordChar x && isWordChar y) = false := by
    intro x _ y isFirst
    rw [ends y isFirst, Bool.and_false]
  have together : word.IsChain fun c d => (isWordChar c && isWordChar d) = true := by
    refine List.Pairwise.isChain (List.pairwise_of_forall_mem_list ?_)
    intro c cInside d dInside
    rw [isWord.inside c cInside, isWord.inside d dInside, Bool.and_self]
  rw [wordPieces, List.splitBy_append apart,
    List.splitBy_of_isChain isWord.nonempty together]
  rfl

/-- The function on pieces leaves alone what stands between words, and gives words for
words. -/
structure KeepsWords (change : List Char -> List Char) : Prop where
  between : ∀ c, isWordChar c = false -> change [c] = [c]
  word : ∀ word, IsWord word -> IsWord (change word)

theorem StartsOutside.flatMap
    {text : List Char}
    (starts : StartsOutside text)
    {change : List Char -> List Char}
    (keeps : KeepsWords change) :
    StartsOutside ((wordPieces text).flatMap change) := by
  cases text with
  | nil => exact starts
  | cons c rest =>
      have outside : isWordChar c = false := starts c rfl
      rw [wordPieces_cons outside, List.flatMap_cons, keeps.between c outside]
      exact starts

/-- Words that are exchanged for words are the words of the new text. -/
theorem wordPieces_flatMap
    {change : List Char -> List Char}
    (keeps : KeepsWords change)
    (text : List Char) :
    wordPieces ((wordPieces text).flatMap change) = (wordPieces text).map change := by
  induction text using word_induction with
  | nil => rfl
  | between c rest outside inductionHypothesis =>
      rw [wordPieces_cons outside, List.flatMap_cons, List.map_cons,
        keeps.between c outside, List.singleton_append, wordPieces_cons outside,
        inductionHypothesis]
  | word word rest isWord ends inductionHypothesis =>
      rw [wordPieces_append isWord ends, List.flatMap_cons, List.map_cons,
        wordPieces_append (keeps.word word isWord) (ends.flatMap keeps),
        inductionHypothesis]

/-! ## Replacing whole words -/

theorem isWordChar_iff (c : Char) :
    isWordChar c = true <->
      (48 ≤ c.toNat ∧ c.toNat ≤ 57) ∨ (65 ≤ c.toNat ∧ c.toNat ≤ 90) ∨ c.toNat = 95 ∨
        (97 ≤ c.toNat ∧ c.toNat ≤ 122) := by
  have underscore : c = '_' <-> c.toNat = 95 := by
    rw [Char.ext_iff, ← UInt32.toNat_inj]
    rfl
  have classes : isWordChar c =
      (((decide (c.val ≥ 65 ∧ c.val ≤ 90) || (c.val ≥ 97 && c.val ≤ 122)) ||
        (c.val ≥ 48 && c.val ≤ 57)) || c == '_') := rfl
  simp only [classes, Bool.or_eq_true, Bool.and_eq_true, decide_eq_true_eq, beq_iff_eq,
    UInt32.le_iff_toNat_le, ge_iff_le, underscore]
  change (((65 ≤ c.toNat ∧ c.toNat ≤ 90) ∨ (97 ≤ c.toNat ∧ c.toNat ≤ 122)) ∨
    (48 ≤ c.toNat ∧ c.toNat ≤ 57)) ∨ _ <-> _
  omega

theorem toNat_toLower (c : Char) :
    c.toLower.toNat = if 65 ≤ c.toNat ∧ c.toNat ≤ 90 then c.toNat + 32 else c.toNat := by
  unfold Char.toLower
  split
  · next capital =>
      have bounds : 65 ≤ c.toNat ∧ c.toNat ≤ 90 := capital
      rw [if_pos bounds]
      change (c.val + 32).toNat = c.toNat + 32
      rw [UInt32.toNat_add]
      exact Nat.mod_eq_of_lt
        (Nat.lt_of_le_of_lt (Nat.add_le_add_right bounds.2 32) (by decide))
  · next small => exact (if_neg small).symm

/-- The case of a character does not matter for whether it belongs to a word. -/
theorem isWordChar_toLower (c : Char) : isWordChar c.toLower = isWordChar c := by
  rw [Bool.eq_iff_iff, isWordChar_iff, isWordChar_iff, toNat_toLower]
  split <;> omega

theorem isWordChar_of_sameLetter
    {letter c : Char}
    (same : sameLetter letter c = true)
    (inside : isWordChar letter = true) :
    isWordChar c = true := by
  rw [← isWordChar_toLower, ← beq_iff_eq.mp same, isWordChar_toLower, inside]

/-- Two texts are equal up to the case of ASCII letters. -/
def SameLetters (first second : List Char) : Prop :=
  first.map Char.toLower = second.map Char.toLower

instance (first second : List Char) : Decidable (SameLetters first second) :=
  inferInstanceAs (Decidable (first.map Char.toLower = second.map Char.toLower))

section Replacing

variable {word : List Char} (isWord : IsWord word) (form : Char -> List Char)

include isWord in
/-- No word starts with a character between words. -/
theorem startsWithWord_of_outside {text : List Char} (starts : StartsOutside text) :
    startsWithWord word text = false := by
  obtain ⟨nonempty, inside⟩ := isWord
  cases word with
  | nil => exact absurd rfl nonempty
  | cons letter word =>
      cases text with
      | nil => rfl
      | cons c text =>
          have different : sameLetter letter c = false := by
            by_contra same
            have isInside := isWordChar_of_sameLetter (Bool.not_eq_false _ ▸ same)
              (inside letter List.mem_cons_self)
            rw [starts c rfl] at isInside
            cases isInside
          simp [startsWithWord, afterWord?, different]

/-- A text that starts with a run of word characters starts with a whole word if the
word is the whole run. -/
theorem startsWithWord_append
    {word run rest : List Char}
    (wordInside : ∀ c ∈ word, isWordChar c = true)
    (runInside : ∀ c ∈ run, isWordChar c = true)
    (ends : StartsOutside rest) :
    startsWithWord word (run ++ rest) = true <-> SameLetters run word := by
  induction word generalizing run with
  | nil =>
      cases run with
      | nil => simp [startsWithWord, afterWord?, SameLetters, startsOutsideWord_iff, ends]
      | cons c run =>
          have inside : isWordChar c = true := runInside c List.mem_cons_self
          simp [startsWithWord, afterWord?, SameLetters, startsOutsideWord, inside]
  | cons letter word inductionHypothesis =>
      cases run with
      | nil =>
          rw [List.nil_append,
            startsWithWord_of_outside ⟨List.cons_ne_nil _ _, wordInside⟩ ends]
          simp [SameLetters]
      | cons c run =>
          have others := inductionHypothesis (List.forall_mem_cons.mp wordInside).2
            (List.forall_mem_cons.mp runInside).2
          by_cases same : sameLetter letter c = true
          · have lowered : letter.toLower = c.toLower := beq_iff_eq.mp same
            simpa [startsWithWord, afterWord?, same, SameLetters, lowered] using others
          · have lowered : c.toLower ≠ letter.toLower := fun equal =>
              same (beq_iff_eq.mpr equal.symm)
            simp [startsWithWord, afterWord?, same, SameLetters, lowered]

/-- Inside a word nothing is replaced. -/
theorem replaceWordFrom_inside
    {run : List Char}
    (inside : ∀ c ∈ run, isWordChar c = true)
    (rest : List Char) :
    replaceWordFrom word form 0 true (run ++ rest) =
      run ++ replaceWordFrom word form 0 true rest := by
  induction run with
  | nil => rfl
  | cons c run inductionHypothesis =>
      obtain ⟨first, others⟩ := List.forall_mem_cons.mp inside
      rw [List.cons_append, replaceWordFrom, first, inductionHypothesis others]
      rfl

/-- The rest of a word that was found is passed over. -/
theorem replaceWordFrom_skipped
    {run : List Char}
    (inside : ∀ c ∈ run, isWordChar c = true)
    (rest : List Char) :
    replaceWordFrom word form run.length true (run ++ rest) =
      replaceWordFrom word form 0 true rest := by
  induction run with
  | nil => rfl
  | cons c run inductionHypothesis =>
      obtain ⟨first, others⟩ := List.forall_mem_cons.mp inside
      rw [List.cons_append, List.length_cons, replaceWordFrom, first,
        inductionHypothesis others]

include isWord in
theorem replaceWordFrom_outside
    {rest : List Char}
    (starts : StartsOutside rest)
    (inside : Bool) :
    replaceWordFrom word form 0 inside rest = replaceWord word form rest := by
  cases rest with
  | nil => rfl
  | cons c rest =>
      have noWord := startsWithWord_of_outside isWord starts
      simp [replaceWord, replaceWordFrom, noWord]

include isWord in
theorem replaceWord_cons
    {c : Char}
    (outside : isWordChar c = false)
    (rest : List Char) :
    replaceWord word form (c :: rest) = c :: replaceWord word form rest := by
  have noWord : startsWithWord word (c :: rest) = false := by
    refine startsWithWord_of_outside isWord ?_
    intro d isFirst
    cases isFirst
    exact outside
  simp [replaceWord, replaceWordFrom, noWord, outside]

/-- The piece that stands in the place of a piece when a word is replaced. -/
def replacedPiece (word : List Char) (form : Char -> List Char) : List Char -> List Char
  | [] => []
  | c :: rest => if SameLetters (c :: rest) word then form c else c :: rest

include isWord in
theorem replaceWord_append
    {run rest : List Char}
    (isRun : IsWord run)
    (ends : StartsOutside rest) :
    replaceWord word form (run ++ rest) =
      replacedPiece word form run ++ replaceWord word form rest := by
  have starts := startsWithWord_append isWord.inside isRun.inside ends
  obtain ⟨nonempty, inside⟩ := isRun
  cases run with
  | nil => exact absurd rfl nonempty
  | cons c run =>
      obtain ⟨first, others⟩ := List.forall_mem_cons.mp inside
      rw [List.cons_append] at starts ⊢
      rw [replaceWord, replaceWordFrom, first, replacedPiece]
      by_cases same : SameLetters (c :: run) word
      · have length : word.length - 1 = run.length := by
          have lengths := congrArg List.length same
          simp only [List.length_map, List.length_cons] at lengths
          omega
        rw [starts.mpr same, if_pos same, length, replaceWordFrom_skipped form others,
          replaceWordFrom_outside isWord form ends]
        rfl
      · have notStarts : startsWithWord word (c :: (run ++ rest)) = false :=
          eq_false_of_ne_true (mt starts.mp same)
        rw [notStarts, if_neg same, replaceWordFrom_inside form others,
          replaceWordFrom_outside isWord form ends]
        rfl

include isWord in
/-- What stands between words is not replaced. -/
theorem replacedPiece_of_outside {c : Char} (outside : isWordChar c = false) :
    replacedPiece word form [c] = [c] := by
  refine if_neg fun same => ?_
  obtain ⟨nonempty, inside⟩ := isWord
  cases word with
  | nil => exact absurd rfl nonempty
  | cons letter word =>
      have lowered : c.toLower = letter.toLower := (List.cons.inj same).1
      have isInside := isWordChar_of_sameLetter (beq_iff_eq.mpr lowered.symm)
        (inside letter List.mem_cons_self)
      rw [outside] at isInside
      cases isInside

include isWord in
/-- A word is replaced piece by piece. -/
theorem replaceWord_eq_flatMap (text : List Char) :
    replaceWord word form text = (wordPieces text).flatMap (replacedPiece word form) := by
  induction text using word_induction with
  | nil => rfl
  | between c rest outside inductionHypothesis =>
      rw [replaceWord_cons isWord form outside, wordPieces_cons outside,
        List.flatMap_cons, replacedPiece_of_outside isWord form outside,
        inductionHypothesis, List.singleton_append]
  | word run rest isRun ends inductionHypothesis =>
      rw [replaceWord_append isWord form isRun ends, wordPieces_append isRun ends,
        List.flatMap_cons, inductionHypothesis]

end Replacing

/-! ## Occurrences as a whole word -/

/-- The mark stands in the text with no word character next to it. -/
def StandsWhole (mark text : List Char) : Prop :=
  ∃ before after, text = before ++ mark ++ after ∧ EndsOutside before ∧
    StartsOutside after

theorem endsOutside_nil : EndsOutside [] := by
  intro c isLast
  cases isLast

theorem endsOutside_concat
    {c : Char}
    (outside : isWordChar c = false)
    (text : List Char) :
    EndsOutside (text ++ [c]) := by
  intro last isLast
  obtain rfl : c = last := by simpa using isLast
  exact outside

theorem endsOutside_cons_iff (c : Char) (text : List Char) :
    EndsOutside (c :: text) <->
      (text = [] -> isWordChar c = false) ∧ EndsOutside text := by
  cases text <;> simp [EndsOutside]

theorem EndsOutside.append
    {left right : List Char}
    (leftEnds : EndsOutside left)
    (rightEnds : EndsOutside right) :
    EndsOutside (left ++ right) := by
  intro c isLast
  rw [List.getLast?_append] at isLast
  rcases Option.or_eq_some_iff.mp isLast with inRight | ⟨_, inLeft⟩
  · exact rightEnds c inRight
  · exact leftEnds c inLeft

/-- What stands whole still does so behind a text that ends outside words. -/
theorem StandsWhole.append_left
    {mark text : List Char}
    (stands : StandsWhole mark text)
    {front : List Char}
    (frontEnds : EndsOutside front) :
    StandsWhole mark (front ++ text) := by
  obtain ⟨before, after, rfl, ends, starts⟩ := stands
  exact ⟨front ++ before, after, by simp only [List.append_assoc], frontEnds.append ends,
    starts⟩

/-- The search looks at every place that does not lie inside a word. -/
theorem anyWordStart_iff (here : List Char -> Bool) (inside : Bool) (text : List Char) :
    anyWordStart here inside text = true <->
      ∃ before rest, text = before ++ rest ∧ rest ≠ [] ∧ here rest = true ∧
        (before = [] -> inside = false) ∧ EndsOutside before := by
  induction text generalizing inside with
  | nil => simp [anyWordStart]
  | cons c text inductionHypothesis =>
      rw [anyWordStart, Bool.or_eq_true, Bool.and_eq_true, Bool.not_eq_true',
        inductionHypothesis]
      constructor
      · rintro (⟨outside, holds⟩ | ⟨before, rest, rfl, nonempty, holds, follows, ends⟩)
        · exact ⟨[], c :: text, rfl, List.cons_ne_nil _ _, holds, fun _ => outside,
            endsOutside_nil⟩
        · exact ⟨c :: before, rest, rfl, nonempty, holds,
            fun empty => absurd empty (List.cons_ne_nil _ _),
            (endsOutside_cons_iff c before).mpr ⟨follows, ends⟩⟩
      · rintro ⟨before, rest, split, nonempty, holds, follows, ends⟩
        cases before with
        | nil =>
            rw [List.nil_append] at split
            exact .inl ⟨follows rfl, split ▸ holds⟩
        | cons d before =>
            obtain ⟨rfl, rfl⟩ := List.cons.inj split
            obtain ⟨first, others⟩ := (endsOutside_cons_iff c before).mp ends
            exact .inr ⟨before, rest, rfl, nonempty, holds, first, others⟩

theorem anyWordStart_false_iff (here : List Char -> Bool) (text : List Char) :
    anyWordStart here false text = true <->
      ∃ before rest, text = before ++ rest ∧ rest ≠ [] ∧ here rest = true ∧
        EndsOutside before := by
  simp [anyWordStart_iff]

theorem hasWholeWord_iff {word : List Char} (nonempty : word ≠ []) (text : List Char) :
    hasWholeWord word text = true <-> StandsWhole word text := by
  simp only [hasWholeWord, anyWordStart_false_iff, Bool.and_eq_true,
    List.isPrefixOf_iff_prefix, startsOutsideWord_iff]
  constructor
  · rintro ⟨before, rest, rfl, _, ⟨⟨after, rfl⟩, starts⟩, ends⟩
    rw [List.drop_left] at starts
    exact ⟨before, after, (List.append_assoc ..).symm, ends, starts⟩
  · rintro ⟨before, after, rfl, ends, starts⟩
    refine ⟨before, word ++ after, List.append_assoc ..,
      List.append_ne_nil_of_left_ne_nil nonempty _, ⟨List.prefix_append word after, ?_⟩,
      ends⟩
    rwa [List.drop_left]

end Text
end FlemishDesk
