import FlemishDesk.Proofs.Text.ByteLine
import FlemishDesk.Snippet.Interpreter

/-!
# What is echoed of a stream

Lines are echoed in their order until one comes that is not valid; that line and
everything behind it are lost.  So no line is lost exactly when the whole stream is
valid.
-/

namespace FlemishDesk
namespace Snippet

open Text (Lined Utf8.Valid Utf8.bytes)

/-- The texts are those of the first lines, up to the first line that encodes no
text. -/
structure Echoes (lines : List (List UInt8)) (shown : List String) : Prop where
  begins : shown.map Utf8.bytes <+: lines
  stops : ∀ line, lines[shown.length]? = some line -> ¬ Utf8.Valid line

theorem echoes_echoLines (cut : List (List UInt8)) :
    Echoes (cut.map Text.dropByteLineEnd) (echoLines cut) := by
  induction cut with
  | nil =>
      exact ⟨List.nil_prefix, fun line impossible => by simp [echoLines] at impossible⟩
  | cons line others inductionHypothesis =>
      cases reads : Text.Utf8.text? (Text.dropByteLineEnd line) with
      | none =>
          have invalid : ¬ Utf8.Valid (Text.dropByteLineEnd line) := by
            rw [Text.Utf8.valid_iff_exists_text?, reads]
            exact fun ⟨_, impossible⟩ => absurd impossible.symm (Option.some_ne_none _)
          simp only [echoLines, reads]
          refine ⟨List.nil_prefix, ?_⟩
          intro first isFirst
          rw [List.length_nil, List.map_cons, List.getElem?_cons_zero,
            Option.some.injEq] at isFirst
          exact isFirst ▸ invalid
      | some text =>
          simp only [echoLines, reads]
          refine ⟨?_, ?_⟩
          · rw [List.map_cons, List.map_cons, Text.Utf8.text?_eq_some_iff.mp reads]
            exact (List.prefix_cons_inj _).mpr inductionHypothesis.begins
          · intro next isNext
            rw [List.length_cons, List.map_cons, List.getElem?_cons_succ] at isNext
            exact inductionHypothesis.stops next isNext

/-- All lines are echoed exactly when all of them are valid. -/
theorem Echoes.length_eq_iff
    {lines : List (List UInt8)}
    {shown : List String}
    (echoes : Echoes lines shown) :
    shown.length = lines.length <-> ∀ line ∈ lines, Utf8.Valid line := by
  constructor
  · intro sameLength line present
    have all : shown.map Utf8.bytes = lines :=
      echoes.begins.eq_of_length (by rw [List.length_map, sameLength])
    rw [← all] at present
    obtain ⟨text, -, encoded⟩ := List.mem_map.mp present
    exact ⟨text, encoded⟩
  · intro valid
    have atMost : shown.length ≤ lines.length := by
      simpa using echoes.begins.length_le
    refine Nat.le_antisymm atMost (Nat.le_of_not_lt ?_)
    intro more
    have next := List.getElem?_eq_getElem more
    exact echoes.stops _ next (valid _ (List.getElem_mem more))

theorem Echoes.newline_not_mem
    {stream : List UInt8}
    {lines : List (List UInt8)}
    {shown : List String}
    (echoes : Echoes lines shown)
    (lined : Lined stream lines)
    {text : String}
    (present : text ∈ shown) :
    '\n' ∉ text.toList := by
  have isLine : Utf8.bytes text ∈ lines :=
    echoes.begins.subset (List.mem_map_of_mem present)
  intro broken
  exact lined.feed_not_mem isLine
    (List.mem_flatMap.mpr ⟨'\n', broken, List.mem_singleton.mpr rfl⟩)

/-- Texts that hold no line feed and are ended by one have as many line feeds as there
are texts. -/
theorem count_newline_join
    {shown : List String}
    (unbroken : ∀ text ∈ shown, '\n' ∉ text.toList) :
    (String.join (shown.map fun line => line ++ "\n")).toList.count '\n' =
      shown.length := by
  induction shown with
  | nil => rfl
  | cons text others inductionHypothesis =>
      obtain ⟨first, rest⟩ := List.forall_mem_cons.mp unbroken
      have ending : "\n".toList.count '\n' = 1 := by decide
      rw [List.map_cons, String.join_cons, String.toList_append, String.toList_append,
        List.count_append, List.count_append, List.count_eq_zero_of_not_mem first, ending,
        inductionHypothesis rest, List.length_cons]
      omega

/-- What is echoed of a stream are its first lines, each ended by a line feed, up to the
first that is not valid.  As many lines are echoed as the stream has exactly when the
whole stream is valid. -/
theorem echo_shows_lines_before_first_invalid (stream : List UInt8) :
    ∃ lines shown, Lined stream lines ∧ Echoes lines shown ∧
      echo stream = String.join (shown.map fun line => line ++ "\n") ∧
      (echo stream).toList.count '\n' = shown.length ∧
      (shown.length = lines.length <-> Utf8.Valid stream) := by
  have lined :=
    Text.lined_iff.mpr (Eq.refl ((Text.byteLines stream).map Text.dropByteLineEnd))
  have echoes := echoes_echoLines (Text.byteLines stream)
  refine ⟨_, echoLines (Text.byteLines stream), lined, echoes, rfl, ?_, ?_⟩
  · rw [echo]
    exact count_newline_join fun _ present => echoes.newline_not_mem lined present
  · rw [echoes.length_eq_iff, lined.valid_iff]

/-- A stream of three lines, the second of which is one byte that encodes nothing. -/
def brokenStream : List UInt8 := [0x61, 0x0A, 0xFF, 0x0A, 0x62, 0x0A]

/-- Of the three lines only the first is echoed: the one behind the bad byte is lost
too. -/
theorem echo_loses_lines_of_brokenStream :
    Lined brokenStream [[0x61], [0xFF], [0x62]] ∧ echo brokenStream = "a\n" ∧
      (echo brokenStream).toList.count '\n' ≠ 3 := by
  have shown : echo brokenStream = "a\n" := by decide +kernel
  refine ⟨Text.lined_iff.mpr (by decide +kernel), shown, ?_⟩
  rw [shown]
  decide

end Snippet
end FlemishDesk
