import FlemishDesk.Text.Blank
import FlemishDesk.Text.Cut

/-!
# Occurrences of a mark

A mark occurs in a text when it is one of its infixes.  No occurrence lies across a
character that is not in the mark, and none begins before the first place of its first
character; so the occurrences in a text that was put together are those in its parts.
The pieces of a text that was split at a mark are parts of the text in which the mark
does not occur.
-/

namespace FlemishDesk
namespace Text

variable {mark text left right before after : List Char} {c : Char}

/-! ## Seams -/

/-- An occurrence lies on one side of a character that is not in the mark. -/
theorem occurrence_beside
    (absent : c ∉ mark)
    (whole : left ++ c :: right = before ++ mark ++ after) :
    (∃ rest, left = before ++ mark ++ rest ∧ after = rest ++ c :: right) ∨
      ∃ rest, before = left ++ c :: rest ∧ right = rest ++ mark ++ after := by
  rcases List.append_eq_append_iff.mp whole with ⟨excess, ends, starts⟩ | ⟨rest, rfl, rfl⟩
  · cases excess with
    | nil =>
        rw [List.append_nil] at ends
        refine .inl ⟨[], ?_, starts.symm⟩
        rw [ends, List.append_nil]
    | cons first excess =>
        obtain ⟨rfl, rfl⟩ := List.cons.inj starts
        rcases List.append_eq_append_iff.mp
          ends with ⟨part, _, spelled⟩ | ⟨part, rfl, spelled⟩
        · exact absurd (by rw [spelled]; simp) absent
        · cases part with
          | nil => exact absurd (by rw [← List.nil_append mark, ← spelled]; simp) absent
          | cons first part =>
              obtain ⟨rfl, rfl⟩ := List.cons.inj spelled
              exact .inr ⟨part, rfl, rfl⟩
  · exact .inl ⟨rest, rfl, rfl⟩

theorem infix_append_cons_iff (absent : c ∉ mark) :
    mark <:+: left ++ c :: right <-> mark <:+: left ∨ mark <:+: right := by
  constructor
  · rintro ⟨before, after, whole⟩
    rcases occurrence_beside absent whole.symm with ⟨rest, same, _⟩ | ⟨rest, _, same⟩
    · exact .inl ⟨before, rest, same.symm⟩
    · exact .inr ⟨rest, after, same.symm⟩
  · rintro (inLeft | inRight)
    · exact inLeft.trans (List.infix_append' [] left (c :: right))
    · exact inRight.trans ⟨left ++ [c], [], by simp⟩

/-- An occurrence does not begin in a text that lacks the first character of the
mark. -/
theorem occurrence_behind
    (absent : c ∉ left)
    (whole : left ++ right = before ++ c :: after) :
    ∃ rest, before = left ++ rest ∧ right = rest ++ c :: after := by
  rcases List.append_eq_append_iff.mp whole with ⟨rest, rfl, rfl⟩ | ⟨part, rfl, spelled⟩
  · exact ⟨rest, rfl, rfl⟩
  · cases part with
    | nil => exact ⟨[], by simp, spelled.symm⟩
    | cons first part =>
        obtain ⟨rfl, _⟩ := List.cons.inj spelled
        exact absurd (by simp) absent

theorem infix_append_iff_of_not_mem {word : List Char} (absent : c ∉ left) :
    c :: word <:+: left ++ right <-> c :: word <:+: right := by
  constructor
  · rintro ⟨before, after, whole⟩
    rw [List.append_assoc, List.cons_append] at whole
    obtain ⟨rest, _, rfl⟩ := occurrence_behind absent whole.symm
    exact ⟨rest, after, by simp⟩
  · intro inRight
    exact inRight.trans (List.suffix_append left right).isInfix

/-! ## Cutting and splitting -/

theorem eq_append_of_cut? (found : cut? mark text = some (before, after)) :
    text = before ++ mark ++ after := by
  induction text generalizing before with
  | nil =>
      unfold cut? at found
      split at found
      · next empty =>
          rw [List.isEmpty_iff.mp empty]
          cases found
          rfl
      · cases found
  | cons c rest inductionHypothesis =>
      unfold cut? at found
      split at found
      · next starts =>
          cases found
          obtain ⟨behind, whole⟩ := List.isPrefixOf_iff_prefix.mp starts
          rw [← whole, List.drop_left]
          rfl
      · obtain ⟨⟨first, last⟩, foundInRest, equal⟩ := Option.map_eq_some_iff.mp found
        cases equal
        rw [inductionHypothesis foundInRest]
        rfl

/-- The mark does not occur before the place where the text is cut. -/
theorem not_infix_of_cut?
    (nonempty : mark ≠ [])
    (found : cut? mark text = some (before, after)) :
    ¬ mark <:+: before := by
  induction text generalizing before with
  | nil =>
      unfold cut? at found
      rw [if_neg (by simpa using nonempty)] at found
      cases found
  | cons c rest inductionHypothesis =>
      have whole := eq_append_of_cut? found
      unfold cut? at found
      split at found
      · cases found
        simpa using nonempty
      · next notStarts =>
          obtain ⟨⟨first, last⟩, foundInRest, equal⟩ := Option.map_eq_some_iff.mp found
          cases equal
          rw [List.infix_cons_iff]
          rintro (starts | occurs)
          · -- A mark at the very start would have been found there.
            refine notStarts (List.isPrefixOf_iff_prefix.mpr ?_)
            rw [whole, List.append_assoc]
            exact starts.trans (List.prefix_append _ _)
          · exact inductionHypothesis foundInRest occurs

theorem not_infix_of_cut?_eq_none (missing : cut? mark text = none) :
    ¬ mark <:+: text := by
  induction text with
  | nil =>
      unfold cut? at missing
      split at missing
      · cases missing
      · next nonempty => simpa using nonempty
  | cons c rest inductionHypothesis =>
      unfold cut? at missing
      split at missing
      · cases missing
      · next notStarts =>
          rw [List.infix_cons_iff]
          rintro (starts | occurs)
          · exact notStarts (List.isPrefixOf_iff_prefix.mpr starts)
          · exact inductionHypothesis (Option.map_eq_none_iff.mp missing) occurs

theorem occursIn_iff_infix (mark text : List Char) :
    occursIn mark text = true <-> mark <:+: text := by
  unfold occursIn
  cases found : cut? mark text with
  | none => simpa using not_infix_of_cut?_eq_none found
  | some parts =>
      rw [eq_append_of_cut? found]
      simp

theorem cut?_eq_none_of_not_infix (free : ¬ mark <:+: text) : cut? mark text = none := by
  cases found : cut? mark text with
  | none => rfl
  | some parts => exact absurd ⟨_, _, (eq_append_of_cut? found).symm⟩ free

/-- A piece of a text that was split at a mark is a part of the text, and the mark does
not occur in it. -/
theorem piece_of_splitOn
    (nonempty : mark ≠ [])
    {piece : List Char}
    (present : piece ∈ splitOn mark text) :
    piece <:+: text ∧ ¬ mark <:+: piece := by
  fun_induction splitOn mark text with
  | case1 text empty => exact absurd empty nonempty
  | case2 text _ missing =>
      obtain rfl := List.mem_singleton.mp present
      exact ⟨List.infix_rfl, not_infix_of_cut?_eq_none missing⟩
  | case3 text _ before after found _ inductionHypothesis =>
      have whole := eq_append_of_cut? found
      rcases List.mem_cons.mp present with rfl | present
      · refine ⟨?_, not_infix_of_cut? nonempty found⟩
        rw [whole, List.append_assoc]
        exact (List.prefix_append _ _).isInfix
      · obtain ⟨part, free⟩ := inductionHypothesis present
        refine ⟨part.trans ?_, free⟩
        rw [whole]
        exact (List.suffix_append _ _).isInfix

theorem trim_infix (text : List Char) : trim text <:+: text := by
  have start : trimStart text <:+ text := List.dropWhile_suffix isBlank
  have ending : trimEnd (trimStart text) <+: trimStart text := by
    rw [trimEnd, ← List.reverse_suffix, List.reverse_reverse]
    exact List.dropWhile_suffix isBlank
  exact ending.isInfix.trans start.isInfix

theorem mem_joinWith
    {separator : List Char}
    {pieces : List (List Char)}
    {c : Char}
    (present : c ∈ joinWith separator pieces) :
    c ∈ separator ∨ ∃ piece ∈ pieces, c ∈ piece := by
  fun_induction joinWith separator pieces with
  | case1 => nomatch present
  | case2 piece => exact .inr ⟨piece, List.mem_cons_self, present⟩
  | case3 piece next others inductionHypothesis =>
      rw [List.mem_append, List.mem_append] at present
      rcases present with (inPiece | inSeparator) | inRest
      · exact .inr ⟨piece, List.mem_cons_self, inPiece⟩
      · exact .inl inSeparator
      · rcases inductionHypothesis inRest with inSeparator | ⟨other, member, inOther⟩
        · exact .inl inSeparator
        · exact .inr ⟨other, List.mem_cons_of_mem piece member, inOther⟩

theorem toList_join (separator : String) (pieces : List String) :
    (join separator pieces).toList =
      joinWith separator.toList (pieces.map String.toList) := by
  fun_induction join separator pieces with
  | case1 => rfl
  | case2 piece => rfl
  | case3 piece next others inductionHypothesis =>
      rw [String.toList_append, String.toList_append, inductionHypothesis]
      rfl

theorem mem_toList_join
    {separator : String}
    {pieces : List String}
    {c : Char}
    (present : c ∈ (join separator pieces).toList) :
    c ∈ separator.toList ∨ ∃ piece ∈ pieces, c ∈ piece.toList := by
  rw [toList_join] at present
  refine (mem_joinWith present).imp_right ?_
  rintro ⟨_, listed, inPiece⟩
  obtain ⟨piece, member, rfl⟩ := List.mem_map.mp listed
  exact ⟨piece, member, inPiece⟩

end Text
end FlemishDesk
