import FlemishDesk.Proofs.Text.Validity
import FlemishDesk.Text.ByteLine

/-!
# The lines of a stream of bytes

A line ends with a line feed, or with a carriage return and a line feed, and the last
line may have no end.  Every stream has one list of lines, and it is valid exactly when
all of them are.
-/

namespace FlemishDesk
namespace Text

/-- The lines of a stream of bytes, without their ends. -/
inductive Lined : List UInt8 -> List (List UInt8) -> Prop
  | nothing : Lined [] []
  | unended {line : List UInt8} :
      line ≠ [] -> 0x0A ∉ line -> Lined line [line]
  | feed {line rest : List UInt8} {lines : List (List UInt8)} :
      0x0A ∉ line -> line.getLast? ≠ some 0x0D -> Lined rest lines ->
        Lined (line ++ 0x0A :: rest) (line :: lines)
  | returnFeed {line rest : List UInt8} {lines : List (List UInt8)} :
      0x0A ∉ line -> Lined rest lines ->
        Lined (line ++ 0x0D :: 0x0A :: rest) (line :: lines)

/-! ## Cutting -/

theorem byteLines_of_not_mem
    {line : List UInt8}
    (nonempty : line ≠ [])
    (unbroken : 0x0A ∉ line) :
    byteLines line = [line] := by
  induction line with
  | nil => exact absurd rfl nonempty
  | cons byte rest inductionHypothesis =>
      obtain ⟨other, restUnbroken⟩ := not_or.mp (mt List.mem_cons.mpr unbroken)
      have noFeed : (byte == 0x0A) = false := beq_false_of_ne (Ne.symm other)
      cases rest with
      | nil => simp [byteLines, noFeed]
      | cons next others =>
          rw [byteLines, noFeed, inductionHypothesis (List.cons_ne_nil _ _) restUnbroken]
          rfl

theorem byteLines_append_feed
    {line : List UInt8}
    (unbroken : 0x0A ∉ line)
    (rest : List UInt8) :
    byteLines (line ++ 0x0A :: rest) = (line ++ [0x0A]) :: byteLines rest := by
  induction line with
  | nil => simp [byteLines]
  | cons byte others inductionHypothesis =>
      obtain ⟨other, othersUnbroken⟩ := not_or.mp (mt List.mem_cons.mpr unbroken)
      have noFeed : (byte == 0x0A) = false := beq_false_of_ne (Ne.symm other)
      rw [List.cons_append, byteLines, noFeed, inductionHypothesis othersUnbroken]
      rfl

/-! ## Line ends -/

theorem dropByteLineEnd_of_not_mem
    {line : List UInt8}
    (unbroken : 0x0A ∉ line) :
    dropByteLineEnd line = line := by
  have unbrokenReverse : 0x0A ∉ line.reverse := mt List.mem_reverse.mp unbroken
  unfold dropByteLineEnd
  split
  · next ends => exact absurd (by rw [ends]; exact List.mem_cons_self) unbrokenReverse
  · next ends => exact absurd (by rw [ends]; exact List.mem_cons_self) unbrokenReverse
  · rfl

theorem dropByteLineEnd_feed
    {line : List UInt8}
    (plain : line.getLast? ≠ some 0x0D) :
    dropByteLineEnd (line ++ [0x0A]) = line := by
  rw [List.getLast?_eq_head?_reverse] at plain
  have reversed : (line ++ [0x0A]).reverse = 0x0A :: line.reverse := List.reverse_concat
  unfold dropByteLineEnd
  rw [reversed]
  split
  · next rest ends =>
      rw [(List.cons.inj ends).2] at plain
      exact absurd rfl plain
  · next rest _ ends => rw [← (List.cons.inj ends).2, List.reverse_reverse]
  · next other => exact absurd rfl (other line.reverse)

theorem dropByteLineEnd_returnFeed (line : List UInt8) :
    dropByteLineEnd (line ++ [0x0D, 0x0A]) = line := by
  simp [dropByteLineEnd]

/-! ## Streams and their lines -/

theorem Lined.eq_map_byteLines
    {stream : List UInt8}
    {lines : List (List UInt8)}
    (lined : Lined stream lines) :
    lines = (byteLines stream).map dropByteLineEnd := by
  induction lined with
  | nothing => rfl
  | unended nonempty unbroken =>
      rw [byteLines_of_not_mem nonempty unbroken, List.map_singleton,
        dropByteLineEnd_of_not_mem unbroken]
  | feed unbroken plain _ inductionHypothesis =>
      rw [byteLines_append_feed unbroken, List.map_cons, dropByteLineEnd_feed plain,
        ← inductionHypothesis]
  | @returnFeed line rest _ unbroken _ inductionHypothesis =>
      have unbrokenReturn : 0x0A ∉ line ++ [0x0D] := by simp [unbroken]
      rw [List.append_cons, byteLines_append_feed unbrokenReturn, List.map_cons,
        List.append_assoc, List.singleton_append, dropByteLineEnd_returnFeed,
        ← inductionHypothesis]

/-- Every stream has lines: it is cut at its first line feed. -/
theorem exists_lined (stream : List UInt8) : ∃ lines, Lined stream lines := by
  by_cases broken : 0x0A ∈ stream
  · obtain ⟨line, rest, rfl, unbroken⟩ := List.eq_append_cons_of_mem broken
    obtain ⟨lines, lined⟩ := exists_lined rest
    by_cases returns : line.getLast? = some 0x0D
    · obtain ⟨front, rfl⟩ := List.getLast?_eq_some_iff.mp returns
      refine ⟨front :: lines, ?_⟩
      rw [List.append_assoc, List.singleton_append]
      exact .returnFeed (fun present => unbroken (List.mem_append_left _ present)) lined
    · exact ⟨line :: lines, .feed unbroken returns lined⟩
  · by_cases empty : stream = []
    · exact ⟨[], empty ▸ .nothing⟩
    · exact ⟨[stream], .unended empty broken⟩
termination_by stream.length

/-- The cutter finds the lines of a stream, and a stream has no others. -/
theorem lined_iff
    {stream : List UInt8}
    {lines : List (List UInt8)} :
    Lined stream lines <-> lines = (byteLines stream).map dropByteLineEnd := by
  constructor
  · exact Lined.eq_map_byteLines
  · rintro rfl
    obtain ⟨lines, lined⟩ := exists_lined stream
    exact lined.eq_map_byteLines ▸ lined

theorem Lined.feed_not_mem
    {stream line : List UInt8}
    {lines : List (List UInt8)}
    (lined : Lined stream lines)
    (present : line ∈ lines) :
    0x0A ∉ line := by
  induction lined with
  | nothing => exact absurd present List.not_mem_nil
  | unended _ unbroken => exact List.mem_singleton.mp present ▸ unbroken
  | feed unbroken _ _ inductionHypothesis =>
      rcases List.mem_cons.mp present with rfl | further
      · exact unbroken
      · exact inductionHypothesis further
  | returnFeed unbroken _ inductionHypothesis =>
      rcases List.mem_cons.mp present with rfl | further
      · exact unbroken
      · exact inductionHypothesis further

/-- A stream is valid exactly when all its lines are. -/
theorem Lined.valid_iff
    {stream : List UInt8}
    {lines : List (List UInt8)}
    (lined : Lined stream lines) :
    Utf8.Valid stream <-> ∀ line ∈ lines, Utf8.Valid line := by
  induction lined with
  | nothing => simp [Utf8.valid_nil]
  | unended => simp
  | feed _ _ _ inductionHypothesis =>
      rw [List.forall_mem_cons, ← inductionHypothesis]
      exact Utf8.valid_append_cons_iff (by decide) _ _
  | @returnFeed line rest _ _ _ inductionHypothesis =>
      rw [List.forall_mem_cons, ← inductionHypothesis,
        Utf8.valid_append_cons_iff (by decide) line, ← List.nil_append (0x0A :: rest),
        Utf8.valid_append_cons_iff (by decide) [] rest]
      simp [Utf8.valid_nil]

end Text
end FlemishDesk
