import FlemishDesk.Proofs.Language.Words

/-!
# The balance of the hits

The two rules by which a text is foreign come to one comparison: the strongest foreign
language has more hits than the dialect.  So the verdict depends on the numbers of hits
only, and neither on the direction nor on the order of the words.  A word of the dialect
adds one hit to the dialect and at most one to any other language, and a word outside
the dialect adds no hit to the dialect.  At the end of a text a word counts unless a
fence stands open there.
-/

namespace FlemishDesk
namespace Language

variable {words others : List String} {word : String}

/-! ## Verdicts on words -/

/-- The rules come to one comparison in both directions. -/
theorem verdict_eq (score : Score) (direction : Direction) :
    score.verdict direction = if score.other ≤ score.target then .target else .other := by
  have foreign : (score.outweighsTarget || score.onlyOther) = true <->
      ¬ score.other ≤ score.target := by
    -- A single foreign hit exceeds the dialect only where the dialect has none.
    simp only [Score.outweighsTarget, Score.onlyOther, Bool.or_eq_true, Bool.and_eq_true,
      decide_eq_true_eq, beq_iff_eq]
    omega
  have inbound : score.verdict .inbound =
      if score.other ≤ score.target then .target else .other := by
    rw [Score.verdict, ite_congr (propext foreign) (fun _ => rfl) (fun _ => rfl), ite_not]
  cases direction with
  | inbound => exact inbound
  | outbound => rw [← inbound, Score.verdict, Score.verdict, Bool.or_comm]

theorem judge_eq (words : List String) (direction : Direction) :
    judge words direction =
      if (Score.ofTokens words).other ≤ (Score.ofTokens words).target then .target
      else .other := by
  cases words with
  | nil => rfl
  | cons word words => exact verdict_eq _ direction

theorem judge_eq_target_iff (words : List String) (direction : Direction) :
    judge words direction = .target <->
      (Score.ofTokens words).other ≤ (Score.ofTokens words).target := by
  rw [judge_eq]
  split <;> simp_all

theorem judge_eq_other_iff (words : List String) (direction : Direction) :
    judge words direction = .other <->
      (Score.ofTokens words).target < (Score.ofTokens words).other := by
  rw [judge_eq]
  split <;> simp_all

/-- The two directions agree. -/
theorem classify_eq_classify (text : String) (one other : Direction) :
    classify text one = classify text other := by
  rw [classify, classify, judge_eq, judge_eq]

theorem ofTokens_perm (same : words.Perm others) :
    Score.ofTokens words = Score.ofTokens others := by
  have sameHits (lexicon : List String) : hits lexicon words = hits lexicon others :=
    same.countP_eq _
  simp only [Score.ofTokens, sameHits]

/-- The order of the words does not matter. -/
theorem judge_perm
    (same : words.Perm others)
    (direction : Direction) :
    judge words direction = judge others direction := by
  rw [judge_eq, judge_eq, ofTokens_perm same]

/-! ## One word more -/

theorem hits_concat (lexicon words : List String) (word : String) :
    hits lexicon (words ++ [word]) = hits lexicon words +
      if word ∈ lexicon then 1 else 0 := by
  rw [hits_append]
  simp [hits, List.countP_cons]

/-- One word more takes no hit away and adds at most one. -/
theorem hits_concat_bounds (lexicon words : List String) (word : String) :
    hits lexicon words ≤ hits lexicon (words ++ [word]) ∧
      hits lexicon (words ++ [word]) ≤ hits lexicon words + 1 := by
  rw [hits_concat]
  split <;> omega

theorem other_concat_bounds (words : List String) (word : String) :
    (Score.ofTokens words).other ≤ (Score.ofTokens (words ++ [word])).other ∧
      (Score.ofTokens (words ++ [word])).other ≤ (Score.ofTokens words).other + 1 := by
  have english := hits_concat_bounds Lexicon.english words word
  have french := hits_concat_bounds Lexicon.french words word
  have german := hits_concat_bounds Lexicon.german words word
  simp only [Score.other, Score.ofTokens]
  omega

/-- A word of the dialect keeps a text in the dialect, also when other languages share
it. -/
theorem judge_concat_of_mem
    {direction : Direction}
    (listed : word ∈ Lexicon.target)
    (judged : judge words direction = .target) :
    judge (words ++ [word]) direction = .target := by
  have more : (Score.ofTokens (words ++ [word])).target =
      (Score.ofTokens words).target + 1 := by
    simp only [Score.ofTokens, hits_concat, if_pos listed]
  have atMost := (other_concat_bounds words word).2
  rw [judge_eq_target_iff] at judged ⊢
  omega

/-- A word outside the dialect keeps a text foreign. -/
theorem judge_concat_of_not_mem
    {direction : Direction}
    (unlisted : word ∉ Lexicon.target)
    (judged : judge words direction = .other) :
    judge (words ++ [word]) direction = .other := by
  have same : (Score.ofTokens (words ++ [word])).target =
      (Score.ofTokens words).target := by
    simp only [Score.ofTokens, hits_concat, if_neg unlisted, Nat.add_zero]
  have atLeast := (other_concat_bounds words word).1
  rw [judge_eq_other_iff] at judged ⊢
  omega

/-! ## The end of a text -/

/-- A fence stands open at the end of a text. -/
def fenceOpen (text : List Char) : Bool :=
  (Text.splitOn fence.toList text).length % 2 == 0

theorem alternate_concat
    {α : Type}
    (pieces : List α)
    (last : α) :
    alternate (pieces ++ [last]) =
      if pieces.length % 2 = 0 then alternate pieces ++ [last] else alternate pieces := by
  fun_induction alternate pieces with
  | case1 => rfl
  | case2 piece => rfl
  | case3 piece next others inductionHypothesis =>
      have sameParity : (piece :: next :: others).length % 2 = others.length % 2 := by
        simp only [List.length_cons]
        omega
      rw [sameParity, List.cons_append, List.cons_append, alternate, inductionHypothesis]
      split <;> rfl

theorem not_infix_fence_of_not_mem
    {text : List Char}
    (absent : backtick ∉ text) :
    ¬ fence.toList <:+: text := by
  rw [toList_fence]
  exact fun occurs => absent (occurs.subset List.mem_cons_self)

/-- What is put behind a space at the end of a text belongs to its last piece. -/
theorem exists_splits_append_space
    (text : List Char)
    {more : List Char}
    (absent : backtick ∉ more) :
    ∃ earlier last,
      Text.Splits fence.toList text (earlier ++ [last]) ∧
      Text.Splits fence.toList (text ++ ' ' :: more)
        (earlier ++ [last ++ ' ' :: more]) := by
  have splits := Text.splits_splitOn fence_ne_nil text
  rcases List.eq_nil_or_concat'
    (Text.splitOn fence.toList text) with empty | ⟨earlier, last, ends⟩
  · exact absurd empty splits.ne_nil
  · have inLast : ¬ fence.toList <:+: last := by
      have present : last ∈ Text.splitOn fence.toList text := by simp [ends]
      exact (Text.piece_of_splitOn fence_ne_nil present).2
    -- Backticks at the end of the text complete no fence, because the space is between.
    have apart : ' ' ∉ fence.toList := by decide
    have free : ¬ fence.toList <:+: last ++ ' ' :: more := by
      rw [Text.infix_append_cons_iff apart]
      rintro (occurs | occurs)
      · exact inLast occurs
      · exact not_infix_fence_of_not_mem absent occurs
    rw [ends] at splits
    exact ⟨earlier, last, splits, splits.append rfl free⟩

/-- What is put behind a space at the end of a text is hidden by an open fence, and
otherwise belongs to the last piece outside the fences. -/
theorem outsideFences_append_space
    (text : List Char)
    {more : List Char}
    (absent : backtick ∉ more) :
    fenceOpen text = true ∧ outsideFences (text ++ ' ' :: more) = outsideFences text ∨
      fenceOpen text = false ∧ ∃ others last, outsideFences text = others ++ [last] ∧
        outsideFences (text ++ ' ' :: more) = others ++ [last ++ ' ' :: more] := by
  obtain ⟨earlier, last, splits, splitsMore⟩ := exists_splits_append_space text absent
  rw [fenceOpen, outsideFences, outsideFences, splits.splitOn_eq fence_ne_nil,
    splitsMore.splitOn_eq fence_ne_nil, alternate_concat, alternate_concat,
      List.length_append,
    List.length_singleton]
  -- The last piece stands outside the fences when the number of pieces before it is
  -- even.
  rcases Nat.mod_two_eq_zero_or_one earlier.length with even | odd
  · right
    rw [if_pos even, if_pos even]
    exact ⟨by simp [Nat.add_mod, even], alternate earlier, last, rfl, rfl⟩
  · left
    rw [if_neg (by omega), if_neg (by omega)]
    exact ⟨by simp [Nat.add_mod, odd], rfl⟩

/-- Without backticks the whole text stands outside the fences. -/
theorem tokens_of_not_mem
    {text : String}
    (absent : backtick ∉ text.toList) :
    tokens text =
      (Text.runs isTokenLetter (Text.lower text.toList)).map String.ofList := by
  have onePiece := Text.Splits.last (not_infix_fence_of_not_mem absent)
  rw [tokens, prose, outsideFences, onePiece.splitOn_eq fence_ne_nil]
  rfl

/-- The words of what is put behind a text count unless a fence stands open there. -/
theorem tokens_append_space
    (text : String)
    {more : String}
    (absent : backtick ∉ more.toList) :
    tokens (text ++ " " ++ more) =
      if fenceOpen text.toList then tokens text else tokens text ++ tokens more := by
  have spelled : (text ++ " " ++ more).toList =
      text.toList ++ ' ' :: more.toList := by simp
  rw [tokens_eq_flatMap, tokens_eq_flatMap, tokens_of_not_mem absent, spelled]
  rcases outsideFences_append_space text.toList absent with
    ⟨isOpen, same⟩ | ⟨closed, others, last, pieces, piecesMore⟩
  · rw [if_pos isOpen, same]
  · rw [if_neg (by simp [closed]), pieces, piecesMore, List.flatMap_append,
      List.flatMap_append, List.flatMap_singleton, List.flatMap_singleton,
      Text.lower_append_space, Text.runs_append_cons (by decide), ← List.append_assoc,
      List.map_append]

/-! ## Words at the end of a text -/

theorem isTokenLetter_iff (c : Char) :
    isTokenLetter c = true <->
      (0x61 ≤ c.toNat ∧ c.toNat ≤ 0x7A) ∨ (0xE0 ≤ c.toNat ∧ c.toNat ≤ 0xF6) ∨
        (0xF8 ≤ c.toNat ∧ c.toNat ≤ 0xFF) := by
  simp only [isTokenLetter, Bool.or_eq_true, Bool.and_eq_true, decide_eq_true_eq,
    or_assoc]
  rfl

theorem isLatinSmall_of_isTokenLetter {c : Char} (letter : isTokenLetter c = true) :
    Text.isLatinSmall c = true := by
  have bounds := (isTokenLetter_iff c).mp letter
  have notCapital : ¬ Text.isLatinCapital c = true := by
    rw [Text.isLatinCapital_iff]
    omega
  simp only [Text.isLatinSmall, Bool.and_eq_true, decide_eq_true_eq, Bool.not_eq_true']
  exact ⟨by omega, by simpa using notCapital⟩

theorem backtick_not_mem_of_letters
    (letters : ∀ c ∈ word.toList, isTokenLetter c = true) :
    backtick ∉ word.toList := by
  intro present
  exact absurd (letters backtick present) (by decide)

/-- A word is the only word of itself. -/
theorem tokens_of_letters
    (nonempty : word ≠ "")
    (letters : ∀ c ∈ word.toList, isTokenLetter c = true) :
    tokens word = [word] := by
  have small : Text.lower word.toList = word.toList :=
    Text.lower_of_isLatinSmall fun c present =>
      isLatinSmall_of_isTokenLetter (letters c present)
  have oneRun : Text.MaximalRuns isTokenLetter (word.toList ++ []) [word.toList] :=
    .run (by simpa using nonempty) letters (by simp) .nil
  rw [List.append_nil] at oneRun
  rw [tokens_of_not_mem (backtick_not_mem_of_letters letters), small, oneRun.runs_eq,
    List.map_singleton, String.ofList_toList]

/-- A word at the end of a text counts unless a fence stands open there. -/
theorem classify_append_space
    (text : String)
    (direction : Direction)
    (nonempty : word ≠ "")
    (letters : ∀ c ∈ word.toList, isTokenLetter c = true) :
    classify (text ++ " " ++ word) direction =
      judge (if fenceOpen text.toList then tokens text else tokens text ++ [word])
        direction := by
  rw [classify, tokens_append_space text (backtick_not_mem_of_letters letters),
    tokens_of_letters nonempty letters]

/-- The words of the dialect consist of letters. -/
theorem letters_of_mem_target (listed : word ∈ Lexicon.target) :
    word ≠ "" ∧ ∀ c ∈ word.toList, isTokenLetter c = true := by
  have spelled : Lexicon.target.all (fun word =>
      !word.isEmpty && word.toList.all isTokenLetter) = true := by
    decide +kernel
  have here := List.all_eq_true.mp spelled word listed
  simp only [Bool.and_eq_true, List.all_eq_true, Bool.not_eq_true', ← Bool.not_eq_true,
    String.isEmpty_iff] at here
  exact here

/-- A text is in the dialect exactly when no foreign language has more hits.  A word of
the dialect behind it never makes it foreign, also when the word counts for other
languages as well.  A word outside the dialect never takes a foreign text back into the
dialect.  Words in another order get the same verdict. -/
theorem classify_append_word (text : String) (direction : Direction) :
    (classify text direction = .target <->
      (Score.ofTokens (tokens text)).other ≤ (Score.ofTokens (tokens text)).target) ∧
    (∀ word ∈ Lexicon.target,
      classify text direction = .target ->
        classify (text ++ " " ++ word) direction = .target) ∧
    (∀ word : String, word ≠ "" -> (∀ c ∈ word.toList, isTokenLetter c = true) ->
      word ∉ Lexicon.target ->
      classify text direction = .other ->
        classify (text ++ " " ++ word) direction = .other) ∧
    ∀ words : List String, words.Perm (tokens text) ->
      judge words direction = classify text direction := by
  refine ⟨judge_eq_target_iff (tokens text) direction, ?_, ?_,
    fun words same => judge_perm same direction⟩
  · intro word listed judged
    obtain ⟨nonempty, letters⟩ := letters_of_mem_target listed
    rw [classify_append_space text direction nonempty letters]
    split
    · exact judged
    · exact judge_concat_of_mem listed judged
  · intro word nonempty letters unlisted judged
    rw [classify_append_space text direction nonempty letters]
    split
    · exact judged
    · exact judge_concat_of_not_mem unlisted judged

/-- A word that French shares, behind two backticks that open no fence, and an accented
word behind a foreign text whose fence is open. -/
theorem classify_append_word_shared :
    ("je" ∈ Lexicon.target ∧ "je" ∈ Lexicon.french ∧
      classify "awel, bonjour``" .inbound = .target ∧
      classify ("awel, bonjour``" ++ " " ++ "je") .inbound = .target) ∧
    ("können" ∉ Lexicon.target ∧
      classify "awel the and ```x" .outbound = .other ∧
      classify ("awel the and ```x" ++ " " ++ "können") .outbound = .other) ∧
    judge ["and", "awel", "the"] .inbound = classify "awel the and ```x" .inbound := by
  have inDialect : classify "awel, bonjour``" .inbound = .target := by decide +kernel
  have foreign : classify "awel the and ```x" .outbound = .other := by decide +kernel
  have reordered :
      ["and", "awel", "the"].Perm (tokens "awel the and ```x") := by decide +kernel
  have shared : "je" ∈ Lexicon.target := by decide
  have unlisted : "können" ∉ Lexicon.target := by decide
  refine ⟨⟨shared, by decide, inDialect, ?_⟩, ⟨unlisted, foreign, ?_⟩, ?_⟩
  · exact (classify_append_word _ .inbound).2.1 "je" shared inDialect
  · exact (classify_append_word _ .outbound).2.2.1 "können" (by decide)
      (List.all_eq_true.mp (by decide)) unlisted foreign
  · exact (classify_append_word _ .inbound).2.2.2 _ reordered

end Language
end FlemishDesk
