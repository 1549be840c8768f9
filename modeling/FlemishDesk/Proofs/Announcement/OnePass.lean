import FlemishDesk.Announcement.Dialect
import FlemishDesk.Proofs.Text.Word
import Mathlib.Data.List.Nodup

/-!
# The dialect in one pass

The rules of the dialect are applied one after another, each to what the one before has
left.  No form in the dialect is a standard word of any rule, and the forms are words
again, so the rules do not get into each other's way.  Together they exchange each word
of the text once, in whatever order they are applied, and a text in the dialect stays as
it is.
-/

namespace FlemishDesk
namespace Announcement

/-- The rule whose standard word is a piece of a text, whatever the case of its
letters. -/
def ruleFor? (rules : List DialectRule) (piece : List Char) : Option DialectRule :=
  rules.find? fun rule => piece.map Char.toLower == rule.standard.toList

/-- What stands in the place of a piece of a text: the form of the dialect, with a
capital if the piece starts with one, or the piece itself if there is no rule for it. -/
def formUnder (rules : List DialectRule) (piece : List Char) : List Char :=
  match ruleFor? rules piece with
  | none => piece
  | some rule =>
      if piece.head?.any Char.isUpper then capitalized rule.dialect.toList
      else rule.dialect.toList

/-! ## The words of the rules -/

/-- What the rules have in common: the standard word is a word in small letters, and
what is put in its place is a word that no rule is for. -/
structure DialectRule.Sound (rule : DialectRule) : Prop where
  standard_isWord : Text.IsWord rule.standard.toList
  standard_small : rule.standard.toList.map Char.toLower = rule.standard.toList
  form_isWord : ∀ first, Text.IsWord (rule.form first)
  form_final : ∀ first, ∀ other ∈ dialectRules,
    (rule.form first).map Char.toLower ≠ other.standard.toList

theorem DialectRule.form_mem (rule : DialectRule) (first : Char) :
    rule.form first ∈ [capitalized rule.dialect.toList, rule.dialect.toList] := by
  unfold DialectRule.form
  split <;> simp

theorem isWord_of_check
    {word : List Char}
    (check : (!word.isEmpty && word.all Text.isWordChar) = true) :
    Text.IsWord word := by
  obtain ⟨nonempty, inside⟩ := Bool.and_eq_true_iff.mp check
  exact ⟨by simpa using nonempty, List.all_eq_true.mp inside⟩

theorem sound_of_mem {rule : DialectRule} (present : rule ∈ dialectRules) :
    rule.Sound := by
  have standards : dialectRules.all (fun rule =>
      (!rule.standard.toList.isEmpty && rule.standard.toList.all Text.isWordChar) &&
        rule.standard.toList.map Char.toLower == rule.standard.toList) = true := by decide
  have forms : dialectRules.all (fun rule =>
      [capitalized rule.dialect.toList, rule.dialect.toList].all fun form =>
        (!form.isEmpty && form.all Text.isWordChar) &&
          dialectRules.all fun other => form.map Char.toLower != other.standard.toList) =
            true := by
    decide
  obtain ⟨isWord, small⟩ :=
    Bool.and_eq_true_iff.mp (List.all_eq_true.mp standards rule present)
  have ofForm (first : Char) := Bool.and_eq_true_iff.mp
    (List.all_eq_true.mp (List.all_eq_true.mp forms rule present) _ (rule.form_mem first))
  exact
    { standard_isWord := isWord_of_check isWord
      standard_small := beq_iff_eq.mp small
      form_isWord := fun first => isWord_of_check (ofForm first).1
      form_final := fun first other known =>
        bne_iff_ne.mp (List.all_eq_true.mp (ofForm first).2 other known) }

/-- No two rules are for the same word. -/
theorem eq_of_standard_eq
    {rule other : DialectRule}
    (present : rule ∈ dialectRules)
    (otherPresent : other ∈ dialectRules)
    (same : rule.standard.toList = other.standard.toList) :
    rule = other := by
  have distinct : (dialectRules.map fun rule => rule.standard.toList).Nodup := by decide
  exact List.inj_on_of_nodup_map distinct present otherPresent same

/-! ## Pieces under the rules -/

section Pieces

variable {rules others : List DialectRule} {rule : DialectRule} {piece : List Char}

theorem ruleFor?_eq_some_iff (known : rules ⊆ dialectRules) :
    ruleFor? rules piece = some rule <->
      rule ∈ rules ∧ piece.map Char.toLower = rule.standard.toList := by
  constructor
  · intro found
    have same := List.find?_some found
    exact ⟨List.mem_of_find?_eq_some found, beq_iff_eq.mp same⟩
  · rintro ⟨present, same⟩
    cases found : ruleFor? rules piece with
    | none =>
        exact absurd (beq_iff_eq.mpr same) (List.find?_eq_none.mp found rule present)
    | some other =>
        have otherPresent := List.mem_of_find?_eq_some found
        have otherSame := List.find?_some found
        have standards := (beq_iff_eq.mp otherSame).symm.trans same
        rw [eq_of_standard_eq (known otherPresent) (known present) standards]

theorem formUnder_of_no_rule (missing : ruleFor? rules piece = none) :
    formUnder rules piece = piece := by
  rw [formUnder, missing]

/-- A piece that a rule is for is exchanged for the form of the rule. -/
theorem formUnder_of_ruleFor?
    (known : rules ⊆ dialectRules)
    (found : ruleFor? rules piece = some rule) :
    ∃ first rest, piece = first :: rest ∧ formUnder rules piece = rule.form first := by
  obtain ⟨present, same⟩ := (ruleFor?_eq_some_iff known).mp found
  cases piece with
  | nil => exact absurd same.symm (sound_of_mem (known present)).standard_isWord.nonempty
  | cons first rest =>
      refine ⟨first, rest, rfl, ?_⟩
      rw [formUnder, found, DialectRule.form]
      rfl

/-- No rule is for a form of the dialect. -/
theorem ruleFor?_form
    (known : rules ⊆ dialectRules)
    (present : rule ∈ dialectRules)
    (first : Char) :
    ruleFor? rules (rule.form first) = none := by
  refine List.find?_eq_none.mpr fun other otherPresent same => ?_
  exact (sound_of_mem present).form_final first other (known otherPresent)
    (beq_iff_eq.mp same)

/-- Rules that are applied to what others have left are applied to the piece itself. -/
theorem formUnder_formUnder
    (known : rules ⊆ dialectRules)
    (othersKnown : others ⊆ dialectRules) :
    formUnder others (formUnder rules piece) = formUnder (rules ++ others) piece := by
  have both : ruleFor? (rules ++ others) piece =
      (ruleFor? rules piece).or (ruleFor? others piece) := List.find?_append
  cases found : ruleFor? rules piece with
  | none =>
      rw [formUnder_of_no_rule found, formUnder, formUnder, both, found, Option.none_or]
  | some rule =>
      have present := known ((ruleFor?_eq_some_iff known).mp found).1
      obtain ⟨first, _, _, exchanged⟩ := formUnder_of_ruleFor? known found
      have sameForm : formUnder (rules ++ others) piece = formUnder rules piece := by
        rw [formUnder, formUnder, both, found, Option.some_or]
      rw [sameForm, exchanged,
        formUnder_of_no_rule (ruleFor?_form othersKnown present first)]

/-- Only which rules there are matters for a piece. -/
theorem formUnder_congr
    (known : rules ⊆ dialectRules)
    (sameRules : ∀ rule, rule ∈ others <-> rule ∈ rules) :
    formUnder others piece = formUnder rules piece := by
  have othersKnown : others ⊆ dialectRules := fun rule present =>
    known ((sameRules rule).mp present)
  have sameRule : ruleFor? others piece = ruleFor? rules piece := by
    refine Option.ext fun rule => ?_
    rw [ruleFor?_eq_some_iff othersKnown, ruleFor?_eq_some_iff known, sameRules]
  rw [formUnder, formUnder, sameRule]

/-- Words are exchanged for words, and what stands between them stays. -/
theorem keepsWords_formUnder (known : rules ⊆ dialectRules) :
    Text.KeepsWords (formUnder rules) where
  between := by
    intro c outside
    cases found : ruleFor? rules [c] with
    | none => exact formUnder_of_no_rule found
    | some rule =>
        obtain ⟨present, same⟩ := (ruleFor?_eq_some_iff known).mp found
        have inStandard : c.toLower ∈ rule.standard.toList :=
          same ▸ List.mem_singleton_self _
        have inside := (sound_of_mem (known present)).standard_isWord.inside _ inStandard
        rw [Text.isWordChar_toLower, outside] at inside
        cases inside
  word := by
    intro word isWord
    cases found : ruleFor? rules word with
    | none => rwa [formUnder_of_no_rule found]
    | some rule =>
        have present := known ((ruleFor?_eq_some_iff known).mp found).1
        obtain ⟨first, _, _, exchanged⟩ := formUnder_of_ruleFor? known found
        rw [exchanged]
        exact (sound_of_mem present).form_isWord first

/-- Replacing the standard word of a rule exchanges the pieces that the rule is for. -/
theorem replacedPiece_eq_formUnder (present : rule ∈ dialectRules) (piece : List Char) :
    Text.replacedPiece rule.standard.toList rule.form piece = formUnder [rule] piece := by
  have known : [rule] ⊆ dialectRules := List.cons_subset.mpr ⟨present, List.nil_subset _⟩
  have small := (sound_of_mem present).standard_small
  cases found : ruleFor? [rule] piece with
  | none =>
      rw [formUnder_of_no_rule found]
      cases piece with
      | nil => rfl
      | cons c rest =>
          have different : ¬ Text.SameLetters (c :: rest) rule.standard.toList := by
            intro same
            have isFound := (ruleFor?_eq_some_iff known).mpr
              ⟨List.mem_singleton_self rule, same.trans small⟩
            rw [found] at isFound
            cases isFound
          exact if_neg different
  | some other =>
      obtain ⟨isRule, same⟩ := (ruleFor?_eq_some_iff known).mp found
      obtain rfl := List.mem_singleton.mp isRule
      obtain ⟨first, rest, rfl, exchanged⟩ := formUnder_of_ruleFor? known found
      rw [exchanged]
      exact if_pos (same.trans small.symm)

end Pieces

/-! ## Texts under the rules -/

theorem DialectRule.apply_eq_flatMap
    {rule : DialectRule}
    (present : rule ∈ dialectRules)
    (text : List Char) :
    rule.apply text = (Text.wordPieces text).flatMap (formUnder [rule]) := by
  have samePieces : Text.replacedPiece rule.standard.toList rule.form =
      formUnder [rule] :=
    funext (replacedPiece_eq_formUnder present)
  rw [DialectRule.apply,
    Text.replaceWord_eq_flatMap (sound_of_mem present).standard_isWord, samePieces]

/-- Rules that are applied one after another exchange each word of the text once. -/
theorem foldl_apply_eq_flatMap
    {rules : List DialectRule}
    (known : rules ⊆ dialectRules)
    (text : List Char) :
    rules.foldl (fun text rule => rule.apply text) text =
      (Text.wordPieces text).flatMap (formUnder rules) := by
  induction rules generalizing text with
  | nil =>
      have unchanged : formUnder [] = id := rfl
      rw [List.foldl_nil, unchanged, List.flatMap_id, Text.flatten_wordPieces]
  | cons rule rules inductionHypothesis =>
      obtain ⟨present, othersKnown⟩ := List.cons_subset.mp known
      have alone : [rule] ⊆ dialectRules :=
        List.cons_subset.mpr ⟨present, List.nil_subset _⟩
      -- The pieces that the first rule leaves are the pieces that the others find.
      have pieces := Text.wordPieces_flatMap (keepsWords_formUnder alone) text
      have both (piece : List Char) :
          formUnder rules (formUnder [rule] piece) = formUnder (rule :: rules) piece :=
        formUnder_formUnder alone othersKnown
      rw [List.foldl_cons, inductionHypothesis othersKnown, rule.apply_eq_flatMap present,
        pieces, List.flatMap_map]
      exact List.flatMap_congr fun piece _ => both piece

theorem toList_inDialect (text : String) :
    (inDialect text).toList =
      (Text.wordPieces text.toList).flatMap (formUnder dialectRules) := by
  rw [inDialect, String.toList_ofList, foldl_apply_eq_flatMap (List.Subset.refl _)]

/-- A text in the dialect stays as it is. -/
theorem inDialect_inDialect (text : String) :
    inDialect (inDialect text) = inDialect text := by
  have all : dialectRules ⊆ dialectRules := List.Subset.refl _
  have twice (piece : List Char) :
      formUnder dialectRules (formUnder dialectRules piece) =
        formUnder dialectRules piece := by
    rw [formUnder_formUnder all all]
    exact formUnder_congr all fun rule => by rw [List.mem_append, or_self]
  apply String.toList_injective
  rw [toList_inDialect (inDialect text), toList_inDialect text,
    Text.wordPieces_flatMap (keepsWords_formUnder all), List.flatMap_map]
  exact List.flatMap_congr fun piece _ => twice piece

/-- The rules may be applied in any order. -/
theorem foldl_apply_of_perm
    {rules : List DialectRule}
    (perm : rules.Perm dialectRules)
    (text : String) :
    rules.foldl (fun text rule => rule.apply text) text.toList =
      (inDialect text).toList := by
  rw [toList_inDialect, foldl_apply_eq_flatMap perm.subset]
  exact List.flatMap_congr fun piece _ =>
    formUnder_congr (List.Subset.refl _) fun rule => perm.mem_iff

/-- A text is put into the dialect in one pass: it is cut into its words and what stands
between them, and each word that is one of the six is exchanged once, with its capital.
Doing it again changes nothing, and the order of the rules does not matter. -/
theorem inDialect_exchanges_words_once (text : String) :
    (inDialect text).toList =
      (Text.wordPieces text.toList).flatMap (formUnder dialectRules) ∧
      dialectRules.map (fun rule => (rule.standard, rule.dialect)) =
        [("jij", "gij"), ("niet", "nie"), ("wat", "wa"), ("heel", "kei"), ("goed", "goe"),
          ("hoe", "oe")] ∧
      inDialect (inDialect text) = inDialect text ∧
      ∀ rules : List DialectRule, rules.Perm dialectRules ->
        rules.foldl (fun text rule => rule.apply text) text.toList =
          (inDialect text).toList :=
  ⟨toList_inDialect text, rfl, inDialect_inDialect text,
    fun _ perm => foldl_apply_of_perm perm text⟩

end Announcement
end FlemishDesk
