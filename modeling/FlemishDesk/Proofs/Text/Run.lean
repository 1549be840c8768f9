import FlemishDesk.Text.Cut
import FlemishDesk.Text.Run

/-!
# Maximal runs

The maximal runs of a text are said one after another: a character outside the class is
skipped, and a run ends at the end of the text or in front of a character outside the
class.  A text has one list of maximal runs, which `runs` finds.  No run reaches across
a character outside the class, so the runs of joined pieces are those of the pieces.
-/

namespace FlemishDesk
namespace Text

/-- The maximal runs of a class of characters in a text, in order. -/
inductive MaximalRuns (inClass : Char -> Bool) :
    List Char -> List (List Char) -> Prop where
  | nil : MaximalRuns inClass [] []
  | skip {c : Char} {rest : List Char} {found : List (List Char)}
      (outside : inClass c = false)
      (runs : MaximalRuns inClass rest found) :
      MaximalRuns inClass (c :: rest) found
  | run {word rest : List Char} {found : List (List Char)}
      (nonempty : word ≠ [])
      (inside : ∀ c ∈ word, inClass c = true)
      (ends : ∀ c ∈ rest.head?, inClass c = false)
      (runs : MaximalRuns inClass rest found) :
      MaximalRuns inClass (word ++ rest) (word :: found)

variable {inClass : Char -> Bool}

/-! ## Runs that are under way -/

theorem closeRun_append (current : List Char) (others more : List (List Char)) :
    closeRun current (others ++ more) = closeRun current others ++ more := by
  cases current <;> rfl

/-- Characters of the class continue a run. -/
theorem runsAfter_append
    {word : List Char}
    (inside : ∀ c ∈ word, inClass c = true)
    (current rest : List Char) :
    runsAfter inClass current (word ++ rest) =
      runsAfter inClass (word.reverse ++ current) rest := by
  induction word generalizing current with
  | nil => rfl
  | cons c word inductionHypothesis =>
      obtain ⟨first, others⟩ := List.forall_mem_cons.mp inside
      rw [List.cons_append, runsAfter, if_pos first, inductionHypothesis others,
        List.reverse_cons, List.append_assoc, List.singleton_append]

/-- A character outside the class ends a run. -/
theorem runsAfter_of_ends
    (current : List Char)
    {rest : List Char}
    (ends : ∀ c ∈ rest.head?, inClass c = false) :
    runsAfter inClass current rest = closeRun current (runs inClass rest) := by
  cases rest with
  | nil => rfl
  | cons c rest =>
      have outside : inClass c = false := ends c rfl
      simp [runs, runsAfter, outside]

/-- No run reaches across a character outside the class. -/
theorem runsAfter_append_cons
    {c : Char}
    (outside : inClass c = false)
    (current left right : List Char) :
    runsAfter inClass current (left ++ c :: right) =
      runsAfter inClass current left ++ runs inClass right := by
  induction left generalizing current with
  | nil => simp [runsAfter, outside, runs, ← closeRun_append]
  | cons d left inductionHypothesis =>
      rw [List.cons_append, runsAfter, runsAfter]
      split
      · exact inductionHypothesis (d :: current)
      · rw [inductionHypothesis, closeRun_append]

/-! ## Whole texts -/

theorem runs_append_cons
    {c : Char}
    (outside : inClass c = false)
    (left right : List Char) :
    runs inClass (left ++ c :: right) = runs inClass left ++ runs inClass right :=
  runsAfter_append_cons outside [] left right

/-- The runs of pieces that are joined by a character outside the class. -/
theorem runs_joinWith
    {c : Char}
    (outside : inClass c = false)
    (pieces : List (List Char)) :
    runs inClass (joinWith [c] pieces) = pieces.flatMap (runs inClass) := by
  induction pieces with
  | nil => rfl
  | cons piece others inductionHypothesis =>
      cases others with
      | nil => simp
      | cons next others =>
          rw [joinWith_cons_cons, List.append_assoc, List.singleton_append,
            runs_append_cons outside, inductionHypothesis, ← List.flatMap_cons]

/-- What is found behind a run that is under way, together with this run. -/
theorem maximalRuns_runsAfter
    (current text : List Char)
    (inside : ∀ c ∈ current, inClass c = true) :
    MaximalRuns inClass (current.reverse ++ text) (runsAfter inClass current text) := by
  induction text generalizing current with
  | nil =>
      cases current with
      | nil => exact .nil
      | cons c current =>
          refine .run (by simp) ?_ (by simp) .nil
          exact fun d present => inside d (List.mem_reverse.mp present)
  | cons d text inductionHypothesis =>
      rw [runsAfter]
      split
      · next member =>
          have longer := inductionHypothesis (d :: current)
            (List.forall_mem_cons.mpr ⟨member, inside⟩)
          rwa [List.reverse_cons, List.append_assoc, List.singleton_append] at longer
      · next notMember =>
          have outside : inClass d = false := eq_false_of_ne_true notMember
          have rest : MaximalRuns inClass (d :: text) (runsAfter inClass [] text) :=
            .skip outside (inductionHypothesis [] (by simp))
          cases current with
          | nil => exact rest
          | cons c current =>
              refine .run (by simp) ?_ ?_ rest
              · exact fun e present => inside e (List.mem_reverse.mp present)
              · intro first isFirst
                obtain rfl : d = first := by simpa using isFirst
                exact outside

theorem maximalRuns_runs (inClass : Char -> Bool) (text : List Char) :
    MaximalRuns inClass text (runs inClass text) :=
  maximalRuns_runsAfter [] text (by simp)

theorem MaximalRuns.runs_eq
    {text : List Char}
    {found : List (List Char)}
    (maximal : MaximalRuns inClass text found) :
    Text.runs inClass text = found := by
  induction maximal with
  | nil => rfl
  | @skip c rest found outside _ inductionHypothesis =>
      rw [← inductionHypothesis]
      exact runs_append_cons outside [] rest
  | @run word rest found nonempty inside ends _ inductionHypothesis =>
      have closed : closeRun word.reverse found = word :: found := by
        simp [closeRun, nonempty]
      rw [Text.runs, runsAfter_append inside, List.append_nil, runsAfter_of_ends _ ends,
        inductionHypothesis, closed]

/-- A run consists of characters of the class. -/
theorem MaximalRuns.inClass_of_mem
    {text word : List Char}
    {found : List (List Char)}
    (maximal : MaximalRuns inClass text found)
    (isFound : word ∈ found) :
    ∀ c ∈ word, inClass c = true := by
  induction maximal with
  | nil => nomatch isFound
  | skip _ _ inductionHypothesis => exact inductionHypothesis isFound
  | run _ inside _ _ inductionHypothesis =>
      rcases List.mem_cons.mp isFound with rfl | later
      · exact inside
      · exact inductionHypothesis later

theorem MaximalRuns.ne_nil_of_mem
    {text word : List Char}
    {found : List (List Char)}
    (maximal : MaximalRuns inClass text found)
    (isFound : word ∈ found) :
    word ≠ [] := by
  induction maximal with
  | nil => nomatch isFound
  | skip _ _ inductionHypothesis => exact inductionHypothesis isFound
  | run nonempty _ _ _ inductionHypothesis =>
      rcases List.mem_cons.mp isFound with rfl | later
      · exact nonempty
      · exact inductionHypothesis later

/-- The maximal runs of a text are those that are found, and no others. -/
theorem maximalRuns_iff
    {text : List Char}
    {found : List (List Char)} :
    MaximalRuns inClass text found <-> runs inClass text = found := by
  refine ⟨MaximalRuns.runs_eq, ?_⟩
  rintro rfl
  exact maximalRuns_runs inClass text

end Text
end FlemishDesk
