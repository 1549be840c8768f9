import FlemishDesk.Proofs.Snippet.Completion
import FlemishDesk.Proofs.Text.Lines

/-!
# Line ends of programs

Line ends are made uniform in one pass: a carriage return in front of a line feed is
dropped.  Only one is dropped in each line, so a line that ends with several of them
still ends with a carriage return and a line feed, and a carriage return at the very end
of a snippet gets a line feed behind it when the snippet is framed.  The pass moves no
word and no declaration, so a second preparation takes the same way as the first; it
changes a program exactly when such a pair was left.
-/

namespace FlemishDesk
namespace Snippet

/-- A carriage return and a line feed. -/
def returnFeed : List Char := ['\r', '\n']

/-- The words that open and close a program stand in the text. -/
def Framed (text : List Char) : Prop :=
  Opened text ∧ Closed text

variable {text line rest mark : List Char} {c : Char}

theorem returnFeed_ne_nil : returnFeed ≠ [] :=
  List.cons_ne_nil _ _

theorem not_returnFeed_prefix_of_ne (other : c ≠ '\r') : ¬ returnFeed <+: c :: rest := by
  rintro ⟨after, whole⟩
  exact other (List.cons.inj whole).1.symm

/-! ## One pass -/

@[simp] theorem normalizeNewlines_nil : normalizeNewlines [] = [] :=
  Text.replaceAll_nil returnFeed_ne_nil ['\n']

@[simp] theorem normalizeNewlines_pair (rest : List Char) :
    normalizeNewlines ('\r' :: '\n' :: rest) = '\n' :: normalizeNewlines rest :=
  Text.replaceAll_append returnFeed_ne_nil ['\n'] rest

theorem normalizeNewlines_cons (notPair : ¬ returnFeed <+: c :: rest) :
    normalizeNewlines (c :: rest) = c :: normalizeNewlines rest :=
  Text.replaceAll_cons returnFeed_ne_nil notPair ['\n']

/-- A text is empty, or it starts with a pair that the pass shortens or with a character
that the pass keeps. -/
@[elab_as_elim]
theorem pair_induction
    {motive : List Char -> Prop}
    (nil : motive [])
    (pair : ∀ rest, motive rest -> motive ('\r' :: '\n' :: rest))
    (other : ∀ c rest, ¬ returnFeed <+: c :: rest -> motive rest -> motive (c :: rest))
    (text : List Char) :
    motive text := by
  cases text with
  | nil => exact nil
  | cons c rest =>
      by_cases starts : returnFeed <+: c :: rest
      · obtain ⟨after, whole⟩ := starts
        obtain ⟨rfl, rfl⟩ := List.cons.inj whole
        exact pair after (pair_induction nil pair other after)
      · exact other c rest starts (pair_induction nil pair other rest)
termination_by text.length

/-- The pass changes nothing exactly when there is no pair. -/
theorem normalizeNewlines_eq_self_iff (text : List Char) :
    normalizeNewlines text = text <-> ¬ returnFeed <:+: text := by
  induction text using pair_induction with
  | nil =>
      exact iff_of_true normalizeNewlines_nil (mt List.infix_nil.mp returnFeed_ne_nil)
  | pair rest _ =>
      apply iff_of_false
      · intro same
        rw [normalizeNewlines_pair] at same
        exact absurd (List.cons.inj same).1 (by decide)
      · exact not_not_intro (List.prefix_append returnFeed rest).isInfix
  | other c rest notPair inductionHypothesis =>
      rw [normalizeNewlines_cons notPair, List.cons.injEq, inductionHypothesis,
        List.infix_cons_iff]
      simp [notPair]

/-- The pass keeps whether the first character is in a class, if the class does not tell
a carriage return from a line feed. -/
theorem any_head?_normalizeNewlines
    {inClass : Char -> Bool}
    (same : inClass '\r' = inClass '\n')
    (text : List Char) :
    (normalizeNewlines text).head?.any inClass = text.head?.any inClass := by
  induction text using pair_induction with
  | nil => rw [normalizeNewlines_nil]
  | pair rest _ => simp [same]
  | other c rest notPair _ => simp [normalizeNewlines_cons notPair]

theorem normalizeNewlines_append
    (free : '\r' ∉ mark)
    (rest : List Char) :
    normalizeNewlines (mark ++ rest) = mark ++ normalizeNewlines rest := by
  induction mark with
  | nil => rfl
  | cons c mark inductionHypothesis =>
      obtain ⟨first, others⟩ := not_or.mp (mt List.mem_cons.mpr free)
      rw [List.cons_append,
        normalizeNewlines_cons (not_returnFeed_prefix_of_ne (Ne.symm first)),
        inductionHypothesis others, List.cons_append]

/-- The pass keeps what a text starts with, as long as this is within a line. -/
theorem prefix_normalizeNewlines_iff
    (noReturn : '\r' ∉ mark)
    (noFeed : '\n' ∉ mark)
    (text : List Char) :
    mark <+: normalizeNewlines text <-> mark <+: text := by
  induction mark generalizing text with
  | nil => simp
  | cons m mark inductionHypothesis =>
      obtain ⟨firstNoReturn, restNoReturn⟩ := not_or.mp (mt List.mem_cons.mpr noReturn)
      obtain ⟨firstNoFeed, restNoFeed⟩ := not_or.mp (mt List.mem_cons.mpr noFeed)
      cases text using pair_induction with
      | nil => rw [normalizeNewlines_nil]
      | pair rest _ =>
          rw [normalizeNewlines_pair, List.cons_prefix_cons, List.cons_prefix_cons]
          exact iff_of_false (fun starts => firstNoFeed starts.1.symm)
            (fun starts => firstNoReturn starts.1.symm)
      | other c rest notPair _ =>
          rw [normalizeNewlines_cons notPair, List.cons_prefix_cons,
            List.cons_prefix_cons, inductionHypothesis restNoReturn restNoFeed]

theorem dropWhile_normalizeNewlines
    {inClass : Char -> Bool}
    (hasReturn : inClass '\r' = true)
    (hasFeed : inClass '\n' = true)
    (text : List Char) :
    (normalizeNewlines text).dropWhile inClass =
      normalizeNewlines (text.dropWhile inClass) := by
  induction text using pair_induction with
  | nil => simp
  | pair rest inductionHypothesis => simp [hasReturn, hasFeed, inductionHypothesis]
  | other c rest notPair inductionHypothesis =>
      rw [normalizeNewlines_cons notPair]
      by_cases inside : inClass c = true
      · rw [List.dropWhile_cons_of_pos inside, List.dropWhile_cons_of_pos inside,
          inductionHypothesis]
      · rw [List.dropWhile_cons_of_neg inside, List.dropWhile_cons_of_neg inside,
          normalizeNewlines_cons notPair]

/-! ## What the pass leaves in place -/

theorem startsOutsideWord_eq (text : List Char) :
    Text.startsOutsideWord text = !text.head?.any Text.isWordChar := by
  cases text <;> rfl

theorem startsOutsideWord_normalizeNewlines (text : List Char) :
    Text.startsOutsideWord (normalizeNewlines text) = Text.startsOutsideWord text := by
  rw [startsOutsideWord_eq, startsOutsideWord_eq, any_head?_normalizeNewlines (by decide)]

theorem isPrefixOf_normalizeNewlines
    (noReturn : '\r' ∉ mark)
    (noFeed : '\n' ∉ mark)
    (text : List Char) :
    mark.isPrefixOf (normalizeNewlines text) = mark.isPrefixOf text := by
  rw [Bool.eq_iff_iff, List.isPrefixOf_iff_prefix, List.isPrefixOf_iff_prefix,
    prefix_normalizeNewlines_iff noReturn noFeed]

/-- Behind a mark that a text starts with, the pass does what it does alone. -/
theorem drop_normalizeNewlines
    (free : '\r' ∉ mark)
    (starts : mark <+: text) :
    (normalizeNewlines text).drop mark.length =
      normalizeNewlines (text.drop mark.length) := by
  obtain ⟨rest, rfl⟩ := starts
  rw [normalizeNewlines_append free, List.drop_left, List.drop_left]

/-- Words that start at no line end are found at the same places. -/
theorem anyWordStart_normalizeNewlines
    {here : List Char -> Bool}
    (same : ∀ text, here (normalizeNewlines text) = here text)
    (notReturn : ∀ rest, here ('\r' :: rest) = false)
    (notFeed : ∀ rest, here ('\n' :: rest) = false)
    (inside : Bool)
    (text : List Char) :
    Text.anyWordStart here inside (normalizeNewlines text) =
      Text.anyWordStart here inside text := by
  induction text using pair_induction generalizing inside with
  | nil => rw [normalizeNewlines_nil]
  | pair rest inductionHypothesis =>
      simp [Text.anyWordStart, notReturn, notFeed, inductionHypothesis]
  | other c rest notPair inductionHypothesis =>
      have first : here (c :: normalizeNewlines rest) = here (c :: rest) := by
        rw [← normalizeNewlines_cons notPair, same]
      rw [normalizeNewlines_cons notPair, Text.anyWordStart, Text.anyWordStart, first,
        inductionHypothesis]

theorem length_dropWhile_lt_iff (inClass : Char -> Bool) (text : List Char) :
    (text.dropWhile inClass).length < text.length <-> text.head?.any inClass = true := by
  cases text with
  | nil => simp
  | cons c rest =>
      by_cases inside : inClass c = true
      · have shorter := (List.dropWhile_sublist inClass (l := rest)).length_le
        simp [inside, Nat.lt_succ_of_le shorter]
      · simp [inside]

/-- The word `doe` stands behind a gap, or it does not, whatever the line ends in the
gap are. -/
theorem startsPlan_normalizeNewlines (text : List Char) :
    startsPlan (normalizeNewlines text) = startsPlan text := by
  have opens : "plan".toList.isPrefixOf (normalizeNewlines text) =
      "plan".toList.isPrefixOf text :=
    isPrefixOf_normalizeNewlines (by decide) (by decide) text
  unfold startsPlan
  rw [opens]
  cases starts : "plan".toList.isPrefixOf text with
  | false => rfl
  | true =>
      have behind : (normalizeNewlines text).drop 4 = normalizeNewlines (text.drop 4) :=
        drop_normalizeNewlines (by decide) (List.isPrefixOf_iff_prefix.mp starts)
      dsimp only
      rw [behind]
      generalize text.drop 4 = rest
      have beyond : (normalizeNewlines rest).dropWhile Text.isGap =
          normalizeNewlines (rest.dropWhile Text.isGap) :=
        dropWhile_normalizeNewlines (by decide) (by decide) rest
      have gap : ((normalizeNewlines rest).dropWhile Text.isGap).length <
            (normalizeNewlines rest).length <->
          (rest.dropWhile Text.isGap).length < rest.length := by
        rw [length_dropWhile_lt_iff, length_dropWhile_lt_iff,
          any_head?_normalizeNewlines (by decide)]
      have follows :
          "doe".toList.isPrefixOf (normalizeNewlines (rest.dropWhile Text.isGap)) =
          "doe".toList.isPrefixOf (rest.dropWhile Text.isGap) :=
        isPrefixOf_normalizeNewlines (by decide) (by decide) _
      rw [decide_eq_decide.mpr gap, beyond, follows]
      cases found : "doe".toList.isPrefixOf (rest.dropWhile Text.isGap) with
      | false => simp
      | true =>
          have ends : (normalizeNewlines (rest.dropWhile Text.isGap)).drop 3 =
              normalizeNewlines ((rest.dropWhile Text.isGap).drop 3) :=
            drop_normalizeNewlines (by decide) (List.isPrefixOf_iff_prefix.mp found)
          rw [ends, startsOutsideWord_normalizeNewlines]

theorem hasWholeWord_normalizeNewlines
    {word : List Char}
    (nonempty : word ≠ [])
    (noReturn : '\r' ∉ word)
    (noFeed : '\n' ∉ word)
    (text : List Char) :
    Text.hasWholeWord word (normalizeNewlines text) = Text.hasWholeWord word text := by
  have notFirst (d : Char) (absent : d ∉ word) (rest : List Char) :
      word.isPrefixOf (d :: rest) = false := by
    cases word with
    | nil => exact absurd rfl nonempty
    | cons letter word =>
        rw [Bool.eq_false_iff, ne_eq, List.isPrefixOf_iff_prefix, List.cons_prefix_cons]
        rintro ⟨rfl, _⟩
        exact absent List.mem_cons_self
  apply anyWordStart_normalizeNewlines
  · intro text
    rw [isPrefixOf_normalizeNewlines noReturn noFeed]
    cases starts : word.isPrefixOf text with
    | false => rfl
    | true =>
        rw [drop_normalizeNewlines noReturn (List.isPrefixOf_iff_prefix.mp starts),
          startsOutsideWord_normalizeNewlines]
  · intro rest
    rw [notFirst _ noReturn, Bool.false_and]
  · intro rest
    rw [notFirst _ noFeed, Bool.false_and]

theorem ensureFrame_of_framed (framed : Framed text) : ensureFrame text = text :=
  if_pos ((isFramed_iff text).mpr framed)

theorem ensureFrame_of_not_framed (unframed : ¬ Framed text) :
    ensureFrame text = frame text :=
  if_neg (mt (isFramed_iff text).mp unframed)

/-- The words of a frame are found before the pass where they are found after it. -/
theorem framed_normalizeNewlines_iff (text : List Char) :
    Framed (normalizeNewlines text) <-> Framed text := by
  have opens : opensPlan (normalizeNewlines text) = opensPlan text :=
    anyWordStart_normalizeNewlines startsPlan_normalizeNewlines (fun _ => rfl)
      (fun _ => rfl)
      false text
  have closes : closesPlan (normalizeNewlines text) = closesPlan text :=
    hasWholeWord_normalizeNewlines (by decide) (by decide) (by decide) text
  rw [Framed, Framed, ← isFramed_iff, ← isFramed_iff, isFramed, isFramed, opens, closes]

theorem declared_normalizeNewlines_iff (text : List Char) :
    Declared (normalizeNewlines text) <-> Declared text := by
  rw [← declaresCoding_iff, ← declaresCoding_iff, declaresCoding, declaresCoding,
    Text.trimStart, Text.trimStart, dropWhile_normalizeNewlines (by decide) (by decide),
    isPrefixOf_normalizeNewlines (by decide) (by decide)]

/-- Preparing a complete program again is one more pass over its line ends. -/
theorem Complete.prepare_eq (complete : Complete text) :
    prepare text = normalizeNewlines text := by
  have framed :=
    (framed_normalizeNewlines_iff text).mpr ⟨complete.opened, complete.closed⟩
  have again : Complete (normalizeNewlines text) :=
    { declared := (declared_normalizeNewlines_iff text).mpr complete.declared
      opened := framed.1
      closed := framed.2 }
  rw [prepare, again.ensureFrame_eq, again.ensureCoding_eq]

/-! ## Lines with their ends -/

/-- Drop one carriage return at the end of a line. -/
def dropReturn (line : List Char) : List Char :=
  if line.getLast? = some '\r' then line.dropLast else line

/-- Drop one carriage return at the end of every line but the last. -/
def dropReturns : List (List Char) -> List (List Char)
  | [] => []
  | [last] => [last]
  | line :: next :: others => dropReturn line :: dropReturns (next :: others)

/-- The lines of a text, where a line ends with a line feed or with a carriage return
and a line feed. -/
def bareLines (text : List Char) : List (List Char) :=
  dropReturns (Text.lines text)

theorem dropReturns_cons
    {others : List (List Char)}
    (nonempty : others ≠ [])
    (line : List Char) :
    dropReturns (line :: others) = dropReturn line :: dropReturns others := by
  cases others with
  | nil => exact absurd rfl nonempty
  | cons next others => rfl

theorem dropReturn_cons (notReturn : line = [] -> c ≠ '\r') :
    dropReturn (c :: line) = c :: dropReturn line := by
  cases line with
  | nil => simp [dropReturn, notReturn rfl]
  | cons d line =>
      by_cases ends : (d :: line).getLast? = some '\r' <;> simp [dropReturn, ends]

theorem dropReturn_subset (line : List Char) : dropReturn line ⊆ line := by
  unfold dropReturn
  split
  · exact List.dropLast_subset line
  · exact List.Subset.refl line

theorem normalizeNewlines_of_not_mem (unbroken : '\n' ∉ line) :
    normalizeNewlines line = line := by
  rw [normalizeNewlines_eq_self_iff]
  intro occurs
  exact unbroken (occurs.subset (by simp [returnFeed]))

theorem normalizeNewlines_line
    (unbroken : '\n' ∉ line)
    (rest : List Char) :
    normalizeNewlines (line ++ '\n' :: rest) =
      dropReturn line ++ '\n' :: normalizeNewlines rest := by
  induction line with
  | nil => exact normalizeNewlines_cons (not_returnFeed_prefix_of_ne (by decide))
  | cons c line inductionHypothesis =>
      obtain ⟨_, others⟩ := not_or.mp (mt List.mem_cons.mpr unbroken)
      by_cases starts : returnFeed <+: c :: (line ++ '\n' :: rest)
      · -- The pair is all of the line and its end.
        obtain ⟨after, whole⟩ := starts
        obtain ⟨rfl, isRest⟩ := List.cons.inj whole
        cases line with
        | nil => exact normalizeNewlines_pair rest
        | cons d line =>
            obtain ⟨rfl, _⟩ := List.cons.inj isRest
            exact absurd List.mem_cons_self others
      · have notReturn : line = [] -> c ≠ '\r' := by
          rintro rfl rfl
          exact starts (List.prefix_append returnFeed rest)
        rw [List.cons_append, normalizeNewlines_cons starts, inductionHypothesis others,
          dropReturn_cons notReturn, List.cons_append]

/-- The pass leaves the lines without their ends. -/
theorem lines_normalizeNewlines (text : List Char) :
    Text.lines (normalizeNewlines text) = bareLines text := by
  unfold bareLines
  induction text using Text.line_induction with
  | last line unbroken =>
      rw [normalizeNewlines_of_not_mem unbroken, Text.lines_of_not_mem unbroken]
      rfl
  | line line rest unbroken inductionHypothesis =>
      have stillUnbroken : '\n' ∉ dropReturn line := fun broken =>
        unbroken (dropReturn_subset line broken)
      rw [normalizeNewlines_line unbroken, Text.lines_cons stillUnbroken,
        inductionHypothesis, Text.lines_cons unbroken,
        dropReturns_cons (Text.lines_ne_nil rest)]

theorem returnFeed_infix_line_iff
    (unbroken : '\n' ∉ line)
    (rest : List Char) :
    returnFeed <:+: line ++ '\n' :: rest <->
      line.getLast? = some '\r' ∨ returnFeed <:+: rest := by
  constructor
  · rintro ⟨before, after, whole⟩
    rw [List.append_assoc] at whole
    -- The line feed of the pair ends the line, or it stands behind it.
    rcases List.append_eq_append_iff.mp
      whole with ⟨part, rfl, spelled⟩ | ⟨part, rfl, spelled⟩
    · match part with
      | [] => exact absurd (List.cons.inj spelled).1 (by decide)
      | [d] =>
          obtain ⟨rfl, _⟩ := List.cons.inj spelled
          exact .inl (by simp)
      | d :: e :: part =>
          obtain ⟨_, inLine⟩ := List.cons.inj spelled
          obtain ⟨rfl, _⟩ := List.cons.inj inLine
          exact absurd (by simp) unbroken
    · cases part with
      | nil => exact absurd (List.cons.inj spelled).1 (by decide)
      | cons d part =>
          obtain ⟨_, rfl⟩ := List.cons.inj spelled
          exact .inr ⟨part, after, List.append_assoc ..⟩
  · rintro (ends | inRest)
    · obtain ⟨front, rfl⟩ := List.getLast?_eq_some_iff.mp ends
      exact ⟨front, rest, by simp [returnFeed]⟩
    · exact inRest.trans ⟨line ++ ['\n'], [], by simp⟩

/-- A pair stands where a line that is not the last ends with a carriage return. -/
theorem returnFeed_infix_iff (text : List Char) :
    returnFeed <:+: text <->
      ∃ line ∈ (Text.lines text).dropLast, line.getLast? = some '\r' := by
  induction text using Text.line_induction with
  | last line unbroken =>
      rw [Text.lines_of_not_mem unbroken]
      refine iff_of_false ?_ (by simp)
      intro occurs
      exact unbroken (occurs.subset (by simp [returnFeed]))
  | line line rest unbroken inductionHypothesis =>
      rw [returnFeed_infix_line_iff unbroken, inductionHypothesis,
        Text.lines_cons unbroken, List.dropLast_cons_of_ne_nil (Text.lines_ne_nil rest)]
      simp

/-! ## Lines of programs -/

theorem newline_not_mem_indentLine (unbroken : '\n' ∉ line) : '\n' ∉ indentLine line := by
  unfold indentLine
  split
  · exact List.not_mem_nil
  · simp [unbroken]

/-- Indented lines that are joined are found again. -/
theorem lines_joinWith_indentLine (text : List Char) :
    Text.lines (Text.joinWith ['\n'] ((Text.lines text).map indentLine)) =
      (Text.lines text).map indentLine := by
  apply Text.lines_joinWith
  · exact mt List.map_eq_nil_iff.mp (Text.lines_ne_nil text)
  · intro piece present
    obtain ⟨line, isLine, rfl⟩ := List.mem_map.mp present
    exact newline_not_mem_indentLine (Text.newline_not_mem_of_mem_lines isLine)

/-- A frame keeps every line in its place. -/
theorem lines_frame (text : List Char) :
    Text.lines (frame text) =
      "plan doe".toList :: (Text.lines text).map indentLine ++
        [[], "gedaan".toList, []] := by
  have opening : "plan doe\n".toList = "plan doe".toList ++ ['\n'] := rfl
  have ending : "\n\ngedaan\n".toList = '\n' ::
      ([] ++ '\n' :: ("gedaan".toList ++ ['\n'])) := rfl
  unfold frame
  rw [opening, ending, List.append_assoc, List.append_assoc, List.singleton_append,
    Text.lines_cons (by decide), Text.lines_append_cons, lines_joinWith_indentLine,
    Text.lines_cons List.not_mem_nil, Text.lines_cons (by decide),
    Text.lines_of_not_mem List.not_mem_nil, List.cons_append]

theorem getLast?_indentLine_eq_return_iff (line : List Char) :
    (indentLine line).getLast? = some '\r' <->
      line.getLast? = some '\r' ∧ ¬ line.all Text.isBlank = true := by
  unfold indentLine
  split
  · next blank => simp [blank]
  · next notBlank =>
      cases line with
      | nil => exact absurd rfl notBlank
      | cons c line => simp [notBlank]

/-- A frame puts a line feed behind every line, also behind the last. -/
theorem returnFeed_infix_frame_iff (text : List Char) :
    returnFeed <:+: frame text <->
      ∃ line ∈ Text.lines text, line.getLast? = some '\r' ∧
        ¬ line.all Text.isBlank = true := by
  have ending : [[], "gedaan".toList, []] = [[], "gedaan".toList] ++ [[]] := rfl
  rw [returnFeed_infix_iff, lines_frame, ending, ← List.append_assoc,
    List.dropLast_concat]
  constructor
  · rintro ⟨line, present, ends⟩
    rcases List.mem_append.mp present with inFront | inEnding
    · rcases List.mem_cons.mp inFront with rfl | isIndented
      · exact absurd ends (by decide)
      · obtain ⟨inner, isLine, rfl⟩ := List.mem_map.mp isIndented
        exact ⟨inner, isLine, (getLast?_indentLine_eq_return_iff inner).mp ends⟩
    · simp only [List.mem_cons, List.not_mem_nil, or_false] at inEnding
      rcases inEnding with rfl | rfl
      · cases ends
      · exact absurd ends (by decide)
  · rintro ⟨line, isLine, ends⟩
    refine ⟨indentLine line, ?_, (getLast?_indentLine_eq_return_iff line).mpr ends⟩
    exact List.mem_append_left _ (List.mem_cons_of_mem _ (List.mem_map_of_mem isLine))

theorem returnFeed_infix_ensureCoding_iff (text : List Char) :
    returnFeed <:+: ensureCoding text <-> returnFeed <:+: text := by
  unfold ensureCoding
  split
  · rfl
  · rw [returnFeed_infix_line_iff (by decide)]
    exact or_iff_right (by decide)

/-- A line still ends with a carriage return although its own end was dropped, and gets
a line feed behind it.  A frame ends the last line too, and empties blank lines. -/
def LeavesReturn (text : List Char) : Prop :=
  (Framed text ∧ ∃ line ∈ (bareLines text).dropLast, line.getLast? = some '\r') ∨
    (¬ Framed text ∧
      ∃ line ∈ bareLines text, line.getLast? = some '\r' ∧ ¬ line.all Text.isBlank = true)

theorem returnFeed_infix_prepare_iff (text : List Char) :
    returnFeed <:+: prepare text <-> LeavesReturn text := by
  have sameFrame := framed_normalizeNewlines_iff text
  rw [prepare, returnFeed_infix_ensureCoding_iff, LeavesReturn]
  by_cases framed : Framed text
  · rw [ensureFrame_of_framed (sameFrame.mpr framed), returnFeed_infix_iff,
      lines_normalizeNewlines]
    simp [framed]
  · rw [ensureFrame_of_not_framed (mt sameFrame.mp framed), returnFeed_infix_frame_iff,
      lines_normalizeNewlines]
    simp [framed]

theorem complete_program (snippet : String) : Complete (program snippet).toList := by
  rw [program, String.toList_ofList]
  exact complete_ensure _

/-- Every carriage return of the text has a line feed behind it. -/
def Paired (text : List Char) : Prop :=
  ∀ before after, text = before ++ '\r' :: after -> after.head? = some '\n'

theorem return_not_mem_normalizeNewlines (paired : Paired text) :
    '\r' ∉ normalizeNewlines text := by
  induction text using pair_induction with
  | nil => simp
  | pair rest inductionHypothesis =>
      have restPaired : Paired rest := by
        rintro before after rfl
        exact paired ('\r' :: '\n' :: before) after rfl
      rw [normalizeNewlines_pair, List.mem_cons]
      exact not_or.mpr ⟨by decide, inductionHypothesis restPaired⟩
  | other c rest notPair inductionHypothesis =>
      have restPaired : Paired rest := by
        rintro before after rfl
        exact paired (c :: before) after rfl
      have notReturn : '\r' ≠ c := by
        rintro rfl
        obtain ⟨after, rfl⟩ := List.head?_eq_some_iff.mp (paired [] rest rfl)
        exact notPair (List.prefix_append returnFeed after)
      rw [normalizeNewlines_cons notPair, List.mem_cons]
      exact not_or.mpr ⟨notReturn, inductionHypothesis restPaired⟩

theorem not_leavesReturn_of_paired (paired : Paired text) : ¬ LeavesReturn text := by
  have clean : ∀ line ∈ bareLines text, line.getLast? ≠ some '\r' := by
    intro line present ends
    rw [← lines_normalizeNewlines] at present
    have part := (Text.piece_of_splitOn (List.cons_ne_nil _ _) present).1
    exact return_not_mem_normalizeNewlines paired
      (part.subset (List.mem_of_getLast? ends))
  rintro (⟨_, line, present, ends⟩ | ⟨_, line, present, ends, _⟩)
  · exact clean line (List.dropLast_subset _ present) ends
  · exact clean line present ends

/-- A program has a carriage return in front of a line feed exactly when a line of the
snippet keeps one.  Preparing a program again is one more pass over its line ends, so it
changes nothing exactly when there is no such line.  There is none in a snippet whose
carriage returns all stand in front of line feeds. -/
theorem program_stable_iff_no_return_left (snippet : String) :
    (returnFeed <:+: (program snippet).toList <-> LeavesReturn snippet.toList) ∧
      (program (program snippet)).toList = normalizeNewlines (program snippet).toList ∧
      (program (program snippet) = program snippet <-> ¬ LeavesReturn snippet.toList) ∧
      (Paired snippet.toList -> ¬ LeavesReturn snippet.toList) := by
  have pairs : returnFeed <:+: (program snippet).toList <->
      LeavesReturn snippet.toList := by
    rw [program, String.toList_ofList]
    exact returnFeed_infix_prepare_iff _
  have again : (program (program snippet)).toList =
      normalizeNewlines (program snippet).toList := by
    have complete := complete_program snippet
    rw [program, String.toList_ofList, complete.prepare_eq]
  refine ⟨pairs, again, ?_, not_leavesReturn_of_paired⟩
  rw [← String.toList_inj, again, normalizeNewlines_eq_self_iff, pairs]

/-- A line that ends with two carriage returns keeps one, and a carriage return at the
end of the snippet gets a line feed behind it.  Both programs change when they are
prepared again. -/
theorem program_not_stable_doubled_return :
    (returnFeed <:+: (program "klap\r\r\n").toList ∧
      program (program "klap\r\r\n") ≠ program "klap\r\r\n") ∧
    (returnFeed <:+: (program "klap\r").toList ∧
      program (program "klap\r") ≠ program "klap\r") := by
  rw [← Text.occursIn_iff_infix, ← Text.occursIn_iff_infix]
  decide +kernel

end Snippet
end FlemishDesk
