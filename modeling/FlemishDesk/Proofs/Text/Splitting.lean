import FlemishDesk.Proofs.Text.Occurrence
import Mathlib.Data.List.Forall2

/-!
# Splitting a text at a mark

What it means that a text is split at the leftmost occurrences of a mark that do not
overlap is said without the function that does it: every piece but the last ends where
the mark first occurs in the rest of the text, and in the last piece the mark does not
occur.  A text is split in one way only, and `splitOn` finds it.  Whether the mark
occurs earlier does not depend on what stands behind it; so a piece can be exchanged for
another one in which the mark does not even begin, and all the other pieces stay the
same.  What is put behind a text goes to the last piece.
-/

namespace FlemishDesk
namespace Text

variable {mark text before after : List Char} {pieces : List (List Char)} {c : Char}

/-! ## Leftmost occurrences -/

/-- The occurrence of the mark between two texts is the leftmost one. -/
def Leftmost (mark before after : List Char) : Prop :=
  ∀ early late, before ++ mark ++ after = early ++ mark ++ late ->
    before.length ≤ early.length

/-- An earlier occurrence would end before the rest of the text begins. -/
theorem Leftmost.replace
    (leftmost : Leftmost mark before after)
    (other : List Char) :
    Leftmost mark before other := by
  intro early late whole
  by_contra shorter
  have within : early ++ mark <+: before ++ mark ++ other := ⟨late, whole.symm⟩
  have begins : early ++ mark <+: before ++ mark := by
    refine List.prefix_of_prefix_length_le within (List.prefix_append _ _) ?_
    simp only [List.length_append]
    omega
  obtain ⟨rest, same⟩ := begins
  refine shorter (leftmost early (rest ++ after) ?_)
  rw [← same, List.append_assoc]

/-- A mark cannot occur earlier if its first character does not. -/
theorem leftmost_of_not_mem
    {word : List Char}
    (absent : c ∉ before)
    (after : List Char) :
    Leftmost (c :: word) before after := by
  intro early late whole
  rw [List.append_assoc, List.append_assoc, List.cons_append, List.cons_append] at whole
  obtain ⟨rest, rfl, _⟩ := occurrence_behind absent whole
  simp

theorem leftmost_of_cut? (found : cut? mark text = some (before, after)) :
    Leftmost mark before after := by
  induction text generalizing before with
  | nil =>
      unfold cut? at found
      split at found
      · cases found
        exact fun early late _ => Nat.zero_le _
      · cases found
  | cons c rest inductionHypothesis =>
      have whole := eq_append_of_cut? found
      unfold cut? at found
      split at found
      · cases found
        exact fun early late _ => Nat.zero_le _
      · next notStarts =>
          obtain ⟨⟨first, last⟩, foundInRest, equal⟩ := Option.map_eq_some_iff.mp found
          cases equal
          intro early late same
          cases early with
          | nil =>
              -- The text does not start with the mark.
              refine absurd (List.isPrefixOf_iff_prefix.mpr ?_) notStarts
              rw [whole, same]
              exact ⟨late, rfl⟩
          | cons d early =>
              have leftmost :=
                inductionHypothesis foundInRest early late (List.cons.inj same).2
              exact Nat.succ_le_succ leftmost

/-- A text is cut at the leftmost occurrence of the mark. -/
theorem cut?_of_leftmost (leftmost : Leftmost mark before after) :
    cut? mark (before ++ mark ++ after) = some (before, after) := by
  cases found : cut? mark (before ++ mark ++ after) with
  | none => exact absurd ⟨before, after, rfl⟩ (not_infix_of_cut?_eq_none found)
  | some parts =>
      obtain ⟨first, last⟩ := parts
      have whole := eq_append_of_cut? found
      have sameLength : before.length = first.length :=
        Nat.le_antisymm (leftmost first last whole)
          (leftmost_of_cut? found before after whole.symm)
      rw [List.append_assoc, List.append_assoc] at whole
      obtain ⟨rfl, rest⟩ := List.append_inj whole sameLength
      rw [List.append_cancel_left rest]

/-! ## Pieces -/

/-- If every piece has one outcome, pieces are related to their outcomes only. -/
theorem forall₂_iff_map_eq
    {α β : Type}
    {related : α -> β -> Prop}
    {outcome : α -> β}
    (one : ∀ piece result, related piece result <-> outcome piece = result)
    {pieces : List α}
    {results : List β} :
    List.Forall₂ related pieces results <-> pieces.map outcome = results := by
  rw [← List.forall₂_eq_eq_eq, List.forall₂_map_left_iff]
  constructor
  · exact fun holds => holds.imp fun piece result => (one piece result).mp
  · exact fun equal => equal.imp fun piece result => (one piece result).mpr

/-- The pieces of a text between the leftmost occurrences of a mark that do not
overlap. -/
inductive Splits (mark : List Char) : List Char -> List (List Char) -> Prop where
  | last {text : List Char} (absent : ¬ mark <:+: text) : Splits mark text [text]
  | cut {before after : List Char} {pieces : List (List Char)}
      (leftmost : Leftmost mark before after)
      (rest : Splits mark after pieces) :
      Splits mark (before ++ mark ++ after) (before :: pieces)

/-- Splitting finds the pieces. -/
theorem splits_splitOn (nonempty : mark ≠ []) (text : List Char) :
    Splits mark text (splitOn mark text) := by
  fun_induction splitOn mark text with
  | case1 text empty => exact absurd empty nonempty
  | case2 text _ missing => exact .last (not_infix_of_cut?_eq_none missing)
  | case3 text _ before after found _ inductionHypothesis =>
      rw [eq_append_of_cut? found]
      exact .cut (leftmost_of_cut? found) inductionHypothesis

namespace Splits

/-- A text has no pieces but those that splitting finds. -/
theorem splitOn_eq
    (splits : Splits mark text pieces)
    (nonempty : mark ≠ []) :
    splitOn mark text = pieces := by
  induction splits with
  | @last text absent =>
      rw [splitOn, dif_neg nonempty]
      split
      · rfl
      · next found =>
          exact absurd ⟨_, _, (eq_append_of_cut? found).symm⟩ absent
  | @cut before after pieces leftmost rest inductionHypothesis =>
      rw [splitOn, dif_neg nonempty]
      split
      · next missing => cases missing.symm.trans (cut?_of_leftmost leftmost)
      · next first last found =>
          cases found.symm.trans (cut?_of_leftmost leftmost)
          rw [inductionHypothesis]

theorem ne_nil (splits : Splits mark text pieces) : pieces ≠ [] := by
  cases splits <;> exact List.cons_ne_nil _ _

/-- The pieces with the mark between them are the text. -/
theorem joinWith_eq (splits : Splits mark text pieces) : joinWith mark pieces = text := by
  induction splits with
  | last absent => rfl
  | @cut before after pieces leftmost rest inductionHypothesis =>
      cases pieces with
      | nil => exact absurd rfl rest.ne_nil
      | cons next others => rw [joinWith_cons_cons, inductionHypothesis]

/-- What is put behind a text goes to its last piece, unless it completes the mark
there. -/
theorem append
    (splits : Splits mark text pieces)
    {earlier : List (List Char)}
    {last tail : List Char}
    (ends : pieces = earlier ++ [last])
    (free : ¬ mark <:+: last ++ tail) :
    Splits mark (text ++ tail) (earlier ++ [last ++ tail]) := by
  induction splits generalizing earlier with
  | @last text absent =>
      cases earlier with
      | nil =>
          cases ends
          exact .last free
      | cons first earlier => simp at ends
  | @cut before after pieces leftmost rest inductionHypothesis =>
      cases earlier with
      | nil => exact absurd (List.cons.inj ends).2 rest.ne_nil
      | cons first earlier =>
          obtain ⟨rfl, endsRest⟩ := List.cons.inj ends
          rw [List.append_assoc (before ++ mark)]
          exact .cut (leftmost.replace _) (inductionHypothesis endsRest)

/-- A character with which the mark does not begin goes to the first piece. -/
theorem cons
    {first : List Char}
    (splits : Splits mark text (first :: pieces))
    (notStarts : ¬ mark <+: c :: text) :
    Splits mark (c :: text) ((c :: first) :: pieces) := by
  cases splits with
  | last absent =>
      refine .last ?_
      rw [List.infix_cons_iff]
      exact not_or.mpr ⟨notStarts, absent⟩
  | @cut first after pieces leftmost rest =>
      have stillLeftmost : Leftmost mark (c :: first) after := by
        intro early late whole
        cases early with
        | nil => exact absurd ⟨late, whole.symm⟩ notStarts
        | cons d early =>
            exact Nat.succ_le_succ (leftmost early late (List.cons.inj whole).2)
      exact .cut stillLeftmost rest

/-- Any pieces can be exchanged for texts in which the mark does not begin. -/
theorem replace
    {word : List Char}
    (splits : Splits (c :: word) text pieces)
    {replaced : List (List Char)}
    (exchanged :
      List.Forall₂ (fun piece other => other = piece ∨ c ∉ other) pieces replaced) :
    Splits (c :: word) (joinWith (c :: word) replaced) replaced := by
  induction splits generalizing replaced with
  | @last text absent =>
      obtain ⟨other, others, kept, noOthers, rfl⟩ :=
        List.forall₂_cons_left_iff.mp exchanged
      obtain rfl := List.forall₂_nil_left_iff.mp noOthers
      refine .last ?_
      rcases kept with rfl | free
      · exact absent
      · exact fun occurs => free (occurs.subset List.mem_cons_self)
  | @cut before after pieces leftmost rest inductionHypothesis =>
      obtain ⟨other, others, kept, exchangedRest, rfl⟩ :=
        List.forall₂_cons_left_iff.mp exchanged
      have splitsRest := inductionHypothesis exchangedRest
      cases others with
      | nil => exact absurd rfl splitsRest.ne_nil
      | cons next others =>
          rw [joinWith_cons_cons]
          refine .cut ?_ splitsRest
          rcases kept with rfl | free
          · exact leftmost.replace _
          · exact leftmost_of_not_mem free _

end Splits

/-! ## Splitting at one character -/

theorem splitOn_of_not_mem (absent : c ∉ text) : splitOn [c] text = [text] := by
  have missing : ¬ [c] <:+: text := fun occurs =>
    absent (occurs.subset List.mem_cons_self)
  exact (Splits.last missing).splitOn_eq (List.cons_ne_nil c [])

theorem splitOn_append_cons_of_not_mem (absent : c ∉ before) (after : List Char) :
    splitOn [c] (before ++ c :: after) = before :: splitOn [c] after := by
  have nonempty : [c] ≠ [] := List.cons_ne_nil c []
  have splits : Splits [c] (before ++ [c] ++ after) (before :: splitOn [c] after) :=
    .cut (leftmost_of_not_mem absent after) (splits_splitOn nonempty after)
  rw [List.append_assoc, List.singleton_append] at splits
  exact splits.splitOn_eq nonempty

/-- The pieces on the two sides of a mark are those of the whole. -/
theorem splitOn_append_cons (c : Char) (left right : List Char) :
    splitOn [c] (left ++ c :: right) = splitOn [c] left ++ splitOn [c] right := by
  by_cases present : c ∈ left
  · obtain ⟨before, rest, rfl, absent⟩ := List.eq_append_cons_of_mem present
    rw [List.append_assoc, List.cons_append, splitOn_append_cons_of_not_mem absent,
      splitOn_append_cons_of_not_mem absent, splitOn_append_cons c rest right,
      List.cons_append]
  · rw [splitOn_append_cons_of_not_mem present, splitOn_of_not_mem present,
      List.singleton_append]
termination_by left.length

/-- Pieces that are joined are the pieces of the whole. -/
theorem splitOn_joinWith
    (nonempty : pieces ≠ [])
    (absent : ∀ piece ∈ pieces, c ∉ piece) :
    splitOn [c] (joinWith [c] pieces) = pieces := by
  induction pieces with
  | nil => exact absurd rfl nonempty
  | cons piece others inductionHypothesis =>
      obtain ⟨first, rest⟩ := List.forall_mem_cons.mp absent
      cases others with
      | nil => exact splitOn_of_not_mem first
      | cons next others =>
          rw [joinWith_cons_cons, List.append_assoc, List.singleton_append,
            splitOn_append_cons_of_not_mem first,
            inductionHypothesis (List.cons_ne_nil _ _) rest]

/-- Between pieces that are not empty no mark stands next to another one, nor does one
that is put behind the last piece. -/
theorem not_infix_pair_joinWith
    (filled : ∀ piece ∈ pieces, piece ≠ [] ∧ c ∉ piece) :
    ¬ [c, c] <:+: joinWith [c] pieces ++ [c] := by
  induction pieces with
  | nil =>
      intro occurs
      have longer := occurs.length_le
      simp [joinWith] at longer
  | cons piece others inductionHypothesis =>
      obtain ⟨⟨_, absent⟩, rest⟩ := List.forall_mem_cons.mp filled
      cases others with
      | nil =>
          rw [joinWith_singleton, infix_append_iff_of_not_mem absent]
          intro occurs
          have longer := occurs.length_le
          simp at longer
      | cons next others =>
          rw [joinWith_cons_cons, List.append_assoc, List.append_assoc,
            infix_append_iff_of_not_mem absent, List.singleton_append,
            List.infix_cons_iff]
          rintro (starts | occurs)
          · -- The next piece does not begin with the mark.
            obtain ⟨⟨nonempty, nextAbsent⟩, _⟩ := List.forall_mem_cons.mp rest
            obtain ⟨d, letters, rfl⟩ := List.exists_cons_of_ne_nil nonempty
            obtain ⟨ending, same⟩ := (List.cons_prefix_cons.mp starts).2
            have begins :
                (joinWith [c] ((d :: letters) :: others) ++ [c]).head? = some d := by
              cases others <;> rfl
            rw [← same] at begins
            exact nextAbsent (Option.some.inj begins ▸ List.mem_cons_self)
          · exact inductionHypothesis rest occurs

/-- A doubled mark behind a text is the leftmost one, if the mark that follows the text
completes no other. -/
theorem leftmost_pair
    (free : ¬ [c, c] <:+: before ++ [c])
    (after : List Char) :
    Leftmost [c, c] before after := by
  intro early late whole
  by_contra shorter
  have within : early ++ [c, c] <+: before ++ [c, c] ++ after := ⟨late, whole.symm⟩
  have begins : early ++ [c, c] <+: before ++ [c] := by
    refine List.prefix_of_prefix_length_le within ⟨c :: after, by simp⟩ ?_
    simp only [List.length_append, List.length_cons, List.length_nil]
    omega
  exact free ((List.suffix_append early [c, c]).isInfix.trans begins.isInfix)

/-! ## Characters rewritten one by one -/

/-- The function on characters neither changes a character of the mark nor makes one. -/
def Fixes (change : Char -> Char) (mark : List Char) : Prop :=
  ∀ m ∈ mark, ∀ c, m = change c <-> m = c

namespace Fixes

variable {change : Char -> Char}

theorem map_eq_iff
    (fixes : Fixes change mark)
    (text : List Char) :
    text.map change = mark <-> text = mark := by
  induction mark generalizing text with
  | nil => exact List.map_eq_nil_iff
  | cons m mark inductionHypothesis =>
      obtain ⟨first, rest⟩ := List.forall_mem_cons.mp fixes
      cases text with
      | nil => simp
      | cons c text =>
          rw [List.map_cons, List.cons.injEq, List.cons.injEq, inductionHypothesis rest,
            eq_comm, first c, eq_comm]

/-- An occurrence of the mark in the changed text was there before. -/
theorem exists_occurrence
    (fixes : Fixes change mark)
    {early late : List Char}
    (whole : text.map change = early ++ mark ++ late) :
    ∃ first last, text = first ++ mark ++ last ∧ first.map change = early := by
  obtain ⟨start, last, rfl, begins, _⟩ := List.map_eq_append_iff.mp whole
  obtain ⟨first, middle, rfl, isEarly, isMark⟩ := List.map_eq_append_iff.mp begins
  rw [(fixes.map_eq_iff middle).mp isMark]
  exact ⟨first, last, rfl, isEarly⟩

/-- The changed text has the changed pieces. -/
theorem splits
    (fixes : Fixes change mark)
    (splits : Splits mark text pieces) :
    Splits mark (text.map change) (pieces.map (List.map change)) := by
  induction splits with
  | @last text absent =>
      refine .last ?_
      rintro ⟨early, late, whole⟩
      obtain ⟨first, last, rfl, _⟩ := fixes.exists_occurrence whole.symm
      exact absent ⟨first, last, rfl⟩
  | @cut before after pieces leftmost rest inductionHypothesis =>
      have mapped : (before ++ mark ++ after).map change =
          before.map change ++ mark ++ after.map change := by
        rw [List.map_append, List.map_append, (fixes.map_eq_iff mark).mpr rfl]
      rw [mapped, List.map_cons]
      refine .cut ?_ inductionHypothesis
      intro early late whole
      obtain ⟨first, last, same, rfl⟩ := fixes.exists_occurrence (mapped.trans whole)
      simpa using leftmost first last same

end Fixes

theorem joinWith_map
    (change : Char -> Char)
    (separator : List Char)
    (pieces : List (List Char)) :
    joinWith (separator.map change) (pieces.map (List.map change)) =
      (joinWith separator pieces).map change := by
  induction pieces with
  | nil => rfl
  | cons piece others inductionHypothesis =>
      cases others with
      | nil => rfl
      | cons next others =>
          rw [List.map_cons] at inductionHypothesis
          rw [List.map_cons, List.map_cons, joinWith_cons_cons, joinWith_cons_cons,
            inductionHypothesis, List.map_append, List.map_append]

/-! ## Replacing -/

theorem filter_joinWith
    (keep : Char -> Bool)
    (separator : List Char)
    (pieces : List (List Char)) :
    (joinWith separator pieces).filter keep =
      joinWith (separator.filter keep) (pieces.map (List.filter keep)) := by
  induction pieces with
  | nil => rfl
  | cons piece others inductionHypothesis =>
      cases others with
      | nil => rfl
      | cons next others =>
          rw [joinWith_cons_cons, List.filter_append, List.filter_append,
            inductionHypothesis, List.map_cons, List.map_cons, List.map_cons,
            joinWith_cons_cons]

/-- A text in which the mark does not occur stays as it is. -/
theorem replaceAll_of_not_infix
    (nonempty : mark ≠ [])
    (absent : ¬ mark <:+: text)
    (replacement : List Char) :
    replaceAll mark replacement text = text := by
  rw [replaceAll, (Splits.last absent).splitOn_eq nonempty, joinWith_singleton]

theorem replaceAll_nil (nonempty : mark ≠ []) (replacement : List Char) :
    replaceAll mark replacement [] = [] :=
  replaceAll_of_not_infix nonempty (mt List.infix_nil.mp nonempty) replacement

/-- A character with which the mark does not begin stays as it is. -/
theorem replaceAll_cons
    (nonempty : mark ≠ [])
    (notStarts : ¬ mark <+: c :: text)
    (replacement : List Char) :
    replaceAll mark replacement (c :: text) = c :: replaceAll mark replacement text := by
  have splits := splits_splitOn nonempty text
  rw [replaceAll, replaceAll]
  cases found : splitOn mark text with
  | nil => exact absurd found splits.ne_nil
  | cons first others =>
      rw [found] at splits
      rw [(splits.cons notStarts).splitOn_eq nonempty]
      cases others <;> rfl

/-- A mark with which the text begins is replaced. -/
theorem replaceAll_append
    (nonempty : mark ≠ [])
    (replacement text : List Char) :
    replaceAll mark replacement (mark ++ text) =
      replacement ++ replaceAll mark replacement text := by
  have splits := splits_splitOn nonempty text
  have leftmost : Leftmost mark [] text := fun early late _ => Nat.zero_le _
  have cut : splitOn mark (mark ++ text) = [] :: splitOn mark text :=
    (Splits.cut leftmost splits).splitOn_eq nonempty
  rw [replaceAll, replaceAll, cut]
  cases found : splitOn mark text with
  | nil => exact absurd found splits.ne_nil
  | cons first others => rw [joinWith_cons_cons, List.nil_append]

/-- Replacing changes no characters but those in which mark and replacement differ. -/
theorem filter_replaceAll
    (nonempty : mark ≠ [])
    {keep : Char -> Bool}
    {replacement : List Char}
    (same : replacement.filter keep = mark.filter keep)
    (text : List Char) :
    (replaceAll mark replacement text).filter keep = text.filter keep := by
  have whole : joinWith mark (splitOn mark text) = text :=
    (splits_splitOn nonempty text).joinWith_eq
  rw [replaceAll, filter_joinWith, same, ← filter_joinWith, whole]

/-- A character that is in neither of the two stays where it is. -/
theorem mem_replaceAll_iff
    {replacement : List Char}
    (nonempty : mark ≠ [])
    (notInMark : c ∉ mark)
    (notInReplacement : c ∉ replacement)
    (text : List Char) :
    c ∈ replaceAll mark replacement text <-> c ∈ text := by
  have none {part : List Char} (absent : c ∉ part) : part.filter (· == c) = [] := by
    simpa [List.filter_eq_nil_iff] using fun d present (same : d = c) =>
      absent (same ▸ present)
  have kept :=
    filter_replaceAll nonempty ((none notInReplacement).trans (none notInMark).symm) text
  have counted := congrArg (c ∈ ·) kept
  simpa using counted

end Text
end FlemishDesk
