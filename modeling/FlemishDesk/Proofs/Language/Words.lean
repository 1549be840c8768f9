import FlemishDesk.Language.Score
import FlemishDesk.Proofs.Text.Run
import FlemishDesk.Proofs.Text.Splitting
import FlemishDesk.Proofs.Text.Surroundings

/-!
# Words outside the fences

The words of a text are found in one pass over the lowercase form of its prose, in which
spaces stand for the blocks of code.  They are nevertheless the words of the pieces
outside the fences, taken one by one: neither a word nor the surroundings of a sigma
reach across such a space.  What stands inside the fences has no influence.  When it is
exchanged, the text is cut at the same fences as before, also next to longer rows of
backticks.
-/

namespace FlemishDesk
namespace Language

/-- The character of which fences consist. -/
def backtick : Char := '\x60'

theorem toList_fence : fence.toList = [backtick, backtick, backtick] := by
  decide

theorem fence_ne_nil : fence.toList ≠ [] := by
  rw [toList_fence]
  exact List.cons_ne_nil _ _

/-! ## Pieces at even positions -/

theorem getElem?_alternate
    {α : Type}
    (pieces : List α)
    (index : Nat) :
    (alternate pieces)[index]? = pieces[2 * index]? := by
  fun_induction alternate pieces generalizing index with
  | case1 => simp
  | case2 piece => cases index <;> simp [Nat.mul_succ]
  | case3 piece next others inductionHypothesis =>
      cases index with
      | zero => rfl
      | succ index => simp [Nat.mul_succ, inductionHypothesis]

/-- Lists with the same pieces at even positions. -/
theorem alternate_congr
    {α : Type}
    {pieces others : List α}
    (same : ∀ index, index % 2 = 0 -> others[index]? = pieces[index]?) :
    alternate others = alternate pieces := by
  apply List.ext_getElem?
  intro index
  rw [getElem?_alternate, getElem?_alternate]
  exact same (2 * index) (Nat.mul_mod_right 2 index)

theorem alternate_map
    {α β : Type}
    (change : α -> β)
    (pieces : List α) :
    alternate (pieces.map change) = (alternate pieces).map change := by
  apply List.ext_getElem?
  intro index
  rw [getElem?_alternate, List.getElem?_map, List.getElem?_map, getElem?_alternate]

/-! ## Words of pieces -/

/-- The maximal runs in the lowercase forms of pieces are those that are found there. -/
theorem forall₂_maximalRuns_iff
    {inClass : Char -> Bool}
    {pieces : List (List Char)}
    {found : List (List (List Char))} :
    List.Forall₂ (fun piece => Text.MaximalRuns inClass (Text.lower piece)) pieces
      found <->
      pieces.map (fun piece => Text.runs inClass (Text.lower piece)) = found := by
  apply Text.forall₂_iff_map_eq
  intro piece runs
  exact Text.maximalRuns_iff

/-- The words of a text are those of its pieces outside the fences. -/
theorem tokens_eq_flatMap (text : String) :
    tokens text = ((outsideFences text.toList).flatMap fun piece =>
      Text.runs isTokenLetter (Text.lower piece)).map String.ofList := by
  have outside : isTokenLetter ' ' = false := by decide
  rw [tokens, prose, Text.lower_joinWith_space, Text.runs_joinWith outside,
    List.flatMap_map]

theorem letters_of_mem_tokens
    {text word : String}
    (said : word ∈ tokens text) :
    ∀ c ∈ word.toList, isTokenLetter c = true := by
  obtain ⟨run, found, rfl⟩ := List.mem_map.mp said
  rw [String.toList_ofList]
  exact (Text.maximalRuns_runs isTokenLetter _).inClass_of_mem found

/-- Texts with the same pieces outside the fences have the same words. -/
theorem tokens_congr
    {text other : String}
    (same : outsideFences other.toList = outsideFences text.toList) :
    tokens other = tokens text := by
  rw [tokens, tokens, prose, prose, same]

/-- Exchanging pieces of a text for texts without backticks, but none of those outside
the fences, leaves the pieces outside the fences as they are. -/
theorem outsideFences_of_replaced
    {text : List Char}
    {segments replaced : List (List Char)}
    (splits : Text.Splits fence.toList text segments)
    (sameLength : replaced.length = segments.length)
    (outside : ∀ index, index % 2 = 0 -> replaced[index]? = segments[index]?)
    (inside : ∀ index segment, index % 2 = 1 -> replaced[index]? = some segment ->
      segments[index]? = some segment ∨ backtick ∉ segment) :
    outsideFences (Text.joinWith fence.toList replaced) = outsideFences text := by
  have exchanged : List.Forall₂ (fun segment other => other = segment ∨ backtick ∉ other)
      segments replaced := by
    rw [List.forall₂_iff_get]
    refine ⟨sameLength.symm, fun index within withinReplaced => ?_⟩
    have here : segments[index]? = some (segments.get ⟨index, within⟩) :=
      List.getElem?_eq_getElem within
    have hereReplaced : replaced[index]? = some (replaced.get ⟨index, withinReplaced⟩) :=
      List.getElem?_eq_getElem withinReplaced
    rcases Nat.mod_two_eq_zero_or_one index with even | odd
    · left
      exact Option.some.inj (hereReplaced.symm.trans ((outside index even).trans here))
    · rcases inside index _ odd hereReplaced with kept | free
      · exact .inl (Option.some.inj (kept.symm.trans here))
      · exact .inr free
  have splitsReplaced :
      Text.Splits fence.toList (Text.joinWith fence.toList replaced) replaced := by
    rw [toList_fence] at splits ⊢
    exact splits.replace exchanged
  rw [outsideFences, outsideFences, splitsReplaced.splitOn_eq fence_ne_nil,
    splits.splitOn_eq fence_ne_nil]
  exact alternate_congr outside

/-- The words of a text are the maximal runs of letters in the lowercase forms of the
segments at even positions, when the text is split at its fences: these words and no
others.  Any segments at odd positions can be exchanged for texts without backticks: the
words, the hits and the verdicts stay the same. -/
theorem tokens_are_runs_outside_fences (text : String) :
    (∀ found, tokens text = found <->
      ∃ segments words,
        Text.Splits fence.toList text.toList segments ∧
        List.Forall₂ (fun segment => Text.MaximalRuns isTokenLetter (Text.lower segment))
          (alternate segments) words ∧
        found = words.flatten.map String.ofList) ∧
    ∀ segments, Text.Splits fence.toList text.toList segments ->
      ∀ replaced : List (List Char),
        replaced.length = segments.length ->
        (∀ index, index % 2 = 0 -> replaced[index]? = segments[index]?) ->
        (∀ index segment, index % 2 = 1 -> replaced[index]? = some segment ->
          segments[index]? = some segment ∨ backtick ∉ segment) ->
        tokens (String.ofList (Text.joinWith fence.toList replaced)) = tokens text ∧
        Score.ofTokens (tokens (String.ofList (Text.joinWith fence.toList replaced))) =
          Score.ofTokens (tokens text) ∧
        ∀ direction,
          classify (String.ofList (Text.joinWith fence.toList replaced)) direction =
            classify text direction := by
  constructor
  · intro found
    rw [tokens_eq_flatMap, List.flatMap_def]
    constructor
    · rintro rfl
      exact ⟨_, _, Text.splits_splitOn fence_ne_nil text.toList,
        forall₂_maximalRuns_iff.mpr rfl, rfl⟩
    · rintro ⟨segments, words, splits, maximal, rfl⟩
      rw [← forall₂_maximalRuns_iff.mp maximal, ← splits.splitOn_eq fence_ne_nil,
        outsideFences]
  · intro segments splits replaced sameLength outside inside
    have same : tokens (String.ofList (Text.joinWith fence.toList replaced)) =
        tokens text := by
      apply tokens_congr
      rw [String.toList_ofList]
      exact outsideFences_of_replaced splits sameLength outside inside
    exact ⟨same, by rw [same], fun direction => by rw [classify, classify, same]⟩

/-- A block of code that begins with a backtick of its own, exchanged for one with
foreign words. -/
theorem tokens_are_runs_outside_fences_longer_row :
    Text.Splits fence.toList "Da ````x```-ni".toList
      ["Da ".toList, backtick :: "x".toList, "-ni".toList] ∧
    tokens "Da ```the and ΑΣ```-ni" = tokens "Da ````x```-ni" ∧
    Score.ofTokens (tokens "Da ```the and ΑΣ```-ni") = ⟨1, 0, 0, 0⟩ ∧
    ∀ direction,
      classify "Da ```the and ΑΣ```-ni" direction =
        classify "Da ````x```-ni" direction := by
  have splits := Text.splits_splitOn fence_ne_nil "Da ````x```-ni".toList
  have pieces : Text.splitOn fence.toList "Da ````x```-ni".toList =
      ["Da ".toList, backtick :: "x".toList, "-ni".toList] := by
    decide +kernel
  rw [pieces] at splits
  have joined : String.ofList (Text.joinWith fence.toList
      ["Da ".toList, "the and ΑΣ".toList, "-ni".toList]) = "Da ```the and ΑΣ```-ni" := by
    decide +kernel
  have same := (tokens_are_runs_outside_fences "Da ````x```-ni").2 _ splits
    ["Da ".toList, "the and ΑΣ".toList, "-ni".toList] rfl
    (by
      intro index even
      match index with
      | 0 => rfl
      | 1 => cases even
      | 2 => rfl
      | _ + 3 => rfl)
    (by
      intro index segment odd present
      match index with
      | 0 => cases odd
      | 1 =>
          cases present
          exact .inr (by decide)
      | 2 => cases odd
      | _ + 3 => cases present)
  rw [joined] at same
  refine ⟨splits, same.1, same.2.1.trans ?_, same.2.2⟩
  decide +kernel

end Language
end FlemishDesk
