import FlemishDesk.Proofs.Language.Balance

/-!
# Texts reduced to their words

Nothing about the language of a text is lost when it is reduced to its words, with
single spaces between them.  What is left has no fence, no capital and no character
outside the words but the spaces, so that cutting it at fences, lowercasing it and
finding its words all leave it as it is.  The reduced text is a normal form: two texts
are reduced to the same one exactly when they have the same words.
-/

namespace FlemishDesk
namespace Language

/-- The words of a text with single spaces between them. -/
def canonical (text : String) : String :=
  Text.join " " (tokens text)

/-- A word is not empty and consists of letters. -/
structure IsWord (word : String) : Prop where
  nonempty : word ≠ ""
  letters : ∀ c ∈ word.toList, isTokenLetter c = true

/-- What is found in a text is a word. -/
theorem isWord_of_mem_tokens
    {text word : String}
    (said : word ∈ tokens text) :
    IsWord word where
  nonempty := by
    obtain ⟨run, found, rfl⟩ := List.mem_map.mp said
    have nonempty := (Text.maximalRuns_runs isTokenLetter _).ne_nil_of_mem found
    rwa [ne_eq, String.ofList_eq_empty_iff]
  letters := letters_of_mem_tokens said

theorem backtick_not_mem_join
    {words : List String}
    (areWords : ∀ word ∈ words, IsWord word) :
    backtick ∉ (Text.join " " words).toList := by
  intro present
  rcases Text.mem_toList_join present with inSpace | ⟨word, listed, inWord⟩
  · exact absurd inSpace (by decide)
  · exact backtick_not_mem_of_letters (areWords word listed).letters inWord

/-- A text without backticks leaves no fence open. -/
theorem fenceOpen_of_not_mem
    {text : List Char}
    (absent : backtick ∉ text) :
    fenceOpen text = false := by
  have onePiece := Text.Splits.last (not_infix_fence_of_not_mem absent)
  rw [fenceOpen, onePiece.splitOn_eq fence_ne_nil]
  rfl

/-- Words that are joined by spaces are found again. -/
theorem tokens_join
    {words : List String}
    (areWords : ∀ word ∈ words, IsWord word) :
    tokens (Text.join " " words) = words := by
  induction words with
  | nil =>
      rw [Text.join, tokens_of_not_mem (by simp)]
      rfl
  | cons word others inductionHypothesis =>
      obtain ⟨isWord, areWordsBehind⟩ := List.forall_mem_cons.mp areWords
      have alone := tokens_of_letters isWord.nonempty isWord.letters
      cases others with
      | nil => exact alone
      | cons next others =>
          have closed : fenceOpen word.toList = false :=
            fenceOpen_of_not_mem (backtick_not_mem_of_letters isWord.letters)
          rw [Text.join, tokens_append_space word (backtick_not_mem_join areWordsBehind),
            closed, alone, inductionHypothesis areWordsBehind]
          rfl

theorem tokens_canonical (text : String) : tokens (canonical text) = tokens text :=
  tokens_join fun _ said => isWord_of_mem_tokens said

/-- A text and the text reduced to its words have the same words, the same hits and the
same verdict in both directions.  Every word is not empty and consists of the letters a
to z, à to ö and ø to ÿ.  Texts with the same words, and no others, are reduced to the
same text. -/
theorem canonical_keeps_words (text : String) :
    tokens (canonical text) = tokens text ∧
    Score.ofTokens (tokens (canonical text)) = Score.ofTokens (tokens text) ∧
    (∀ direction, classify (canonical text) direction = classify text direction) ∧
    (∀ word ∈ tokens text, word ≠ "" ∧
      ∀ c ∈ word.toList,
        ('a' ≤ c ∧ c ≤ 'z') ∨ ('à' ≤ c ∧ c ≤ 'ö') ∨ ('ø' ≤ c ∧ c ≤ 'ÿ')) ∧
    ∀ other, canonical other = canonical text <-> tokens other = tokens text := by
  have same := tokens_canonical text
  refine ⟨same, by rw [same], fun direction => by rw [classify, classify, same], ?_, ?_⟩
  · intro word said
    have isWord := isWord_of_mem_tokens said
    refine ⟨isWord.nonempty, fun c present => ?_⟩
    simpa [isTokenLetter, or_assoc] using isWord.letters c present
  · intro other
    constructor
    · intro equal
      rw [← tokens_canonical other, equal, same]
    · intro equal
      rw [canonical, canonical, equal]

/-- A text with capitals, a block of code, a dotted capital whose dot ends a word, a
sharp s and a Kelvin sign, which is written as a plain letter. -/
theorem canonical_keeps_words_kelvin :
    canonical "DÀ ```the``` İs—straßE \u212Am" = "dà i s stra e km" ∧
    "km" ∈ tokens "DÀ ```the``` İs—straßE \u212Am" ∧
    'k' ∈ "km".toList ∧
    "km" ≠ "" ∧
    (('a' ≤ 'k' ∧ 'k' ≤ 'z') ∨ ('à' ≤ 'k' ∧ 'k' ≤ 'ö') ∨ ('ø' ≤ 'k' ∧ 'k' ≤ 'ÿ')) := by
  have said : "km" ∈ tokens "DÀ ```the``` İs—straßE \u212Am" := by decide +kernel
  have spelled : 'k' ∈ "km".toList := by decide
  obtain ⟨nonempty, letters⟩ := (canonical_keeps_words _).2.2.2.1 "km" said
  exact ⟨by decide +kernel, said, spelled, nonempty, letters 'k' spelled⟩

end Language
end FlemishDesk
