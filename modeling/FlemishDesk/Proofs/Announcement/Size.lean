import FlemishDesk.Proofs.Announcement.Layout
import FlemishDesk.Proofs.Release.Range

/-!
# The size of an announcement

The body takes what the header and the links leave of a message, and can be cut down to
nothing.  So a message is short enough exactly when its header and its links fit in it.
The title of a release is cut and its moment is short, but its page is written in full:
how long the header is depends on the page.
-/

namespace FlemishDesk
namespace Announcement

/-! ## Any header and body -/

theorem header_prefix_assemble (header body : String) :
    header.toList <+: (assemble header body).toList := by
  rw [toList_assemble, List.append_assoc]
  exact List.prefix_append _ _

theorem links_suffix_assemble (header body : String) :
    '\n' :: '\n' :: linksLine.toList <:+ (assemble header body).toList := by
  rw [toList_assemble]
  exact List.suffix_append _ _

/-- A message is short enough exactly when its header leaves room for the links. -/
theorem length_assemble_le_iff (header body : String) :
    (assemble header body).length ≤ maxMessageChars <-> header.length ≤ 1642 := by
  have room : bodyBudget header linksLine = 1642 - header.length := by
    rw [bodyBudget, length_linksLine, maxMessageChars]
    omega
  have bodyLength := Text.length_shorten_le (bodyBudget header linksLine)
    truncationSuffix.toList body.toList
  -- The links are a closed text: their length is rewritten before it meets any
  -- arithmetic.
  rw [← String.length_toList, toList_assemble, maxMessageChars, List.length_append,
    List.length_append, List.length_cons, List.length_cons, String.length_toList,
    String.length_toList, length_linksLine]
  omega

/-! ## The header of a release -/

theorem length_lineChars_cons (line : String) (lines : List String) :
    (lineChars (line :: lines)).length = line.length + 1 + (lineChars lines).length := by
  rw [lineChars_cons, List.length_append, List.length_cons, String.length_toList]
  omega

theorem length_title_le (release : Release) : (title release).length ≤ 256 := by
  rw [title, Text.shortened, String.length_ofList]
  exact Text.length_shorten_le maxTitleChars _ _

theorem length_timestampLines_le (release : Release) :
    (lineChars (timestampLines release)).length ≤ 19 := by
  unfold timestampLines
  split
  · decide
  · next moment read =>
      obtain ⟨text, _, parsed⟩ := Option.bind_eq_some_iff.mp read
      obtain ⟨lower, upper⟩ := Release.Moment.seconds_of_parse? parsed
      have digits := Number.length_intText_le lower upper
      split
      · decide
      · have opening : "<t:".length = 3 := by decide
        have closing : ":F>".length = 3 := by decide
        rw [length_lineChars_cons, String.length_append, String.length_append, opening,
          closing]
        rw [lineChars_nil, List.length_nil]
        omega

/-- The page is written in full, between brackets on a line of its own. -/
theorem length_urlLines_bounds (release : Release) :
    (pageUrl release).length ≤ (lineChars (urlLines release)).length ∧
      (lineChars (urlLines release)).length ≤ (pageUrl release).length + 3 := by
  rw [urlLines_eq]
  split
  · next missing =>
      rw [String.isEmpty_iff.mp missing]
      decide
  · rw [length_lineChars_cons, length_bracketed, lineChars_nil, List.length_nil]
    omega

theorem length_header (release : Release) (mentionEveryone : Bool) :
    (header release mentionEveryone).length =
      (lineChars (if mentionEveryone then [everyone] else [])).length +
        (lineChars ["**" ++ title release ++ "**"]).length +
        (lineChars (urlLines release)).length +
        (lineChars (timestampLines release)).length + 1 := by
  rw [← String.length_toList, toList_header, headerLines]
  simp only [lineChars_append, List.length_append, List.length_singleton]

/-- Apart from the page, a header has at most two hundred and ninety-four characters. -/
theorem length_header_le (release : Release) (mentionEveryone : Bool) :
    (header release mentionEveryone).length ≤ (pageUrl release).length + 294 := by
  have mentionLine :
      (lineChars (if mentionEveryone then [everyone] else [])).length ≤ 10 := by
    cases mentionEveryone <;> decide
  have titleLine : (lineChars ["**" ++ title release ++ "**"]).length ≤ 261 := by
    have stars : "**".length = 2 := by decide
    have short := length_title_le release
    rw [length_lineChars_cons, String.length_append, String.length_append, stars,
      lineChars_nil, List.length_nil]
    omega
  have urlLine := (length_urlLines_bounds release).2
  have timestampLine := length_timestampLines_le release
  rw [length_header]
  omega

theorem length_pageUrl_le_header (release : Release) (mentionEveryone : Bool) :
    (pageUrl release).length ≤ (header release mentionEveryone).length := by
  have urlLine := (length_urlLines_bounds release).1
  rw [length_header]
  omega

theorem length_ofRelease_of_long_page
    {release : Release}
    {mentionEveryone : Bool}
    (longPage : 1642 < (pageUrl release).length) :
    maxMessageChars < (ofRelease release mentionEveryone).length := by
  have headerLength := length_pageUrl_le_header release mentionEveryone
  have fits :=
    length_assemble_le_iff (header release mentionEveryone) (releaseBody release)
  exact Nat.lt_of_not_le fun short => absurd (fits.mp short) (by omega)

/-- A page whose name has so many letters. -/
def namedPage (letters : Nat) : String :=
  "https://example.com/" ++ String.ofList (List.replicate letters 'a')

theorem toList_namedPage (letters : Nat) :
    (namedPage letters).toList = "https://example.com/".toList ++
      List.replicate letters 'a' := by
  unfold namedPage
  rw [String.toList_append, String.toList_ofList, String.toList_ofList]

theorem not_isBlank_of_mem_namedPage
    {letters : Nat}
    {c : Char}
    (present : c ∈ (namedPage letters).toList) :
    Text.isBlank c = false := by
  have site :
      "https://example.com/".toList.all (fun c => !Text.isBlank c) = true := by decide
  rw [toList_namedPage, List.mem_append] at present
  rcases present with inSite | inName
  · simpa using List.all_eq_true.mp site c inSite
  · rw [List.eq_of_mem_replicate inName]
    decide

theorem length_pageUrl_namedPage (letters : Nat) :
    (pageUrl (pageOnly (namedPage letters))).length = 20 + letters := by
  have site : "https://example.com/".toList.length = 20 := by decide
  have whole : Text.trim (namedPage letters).toList = (namedPage letters).toList :=
    Text.trim_of_not_isBlank fun _ => not_isBlank_of_mem_namedPage
  have page : pageUrl (pageOnly (namedPage letters)) = Text.trimmed (namedPage letters) :=
    rfl
  rw [page, Text.trimmed, whole, String.length_ofList, toList_namedPage,
    List.length_append, site, List.length_replicate]

theorem length_ofRelease_namedPage :
    maxMessageChars < (ofRelease (pageOnly (namedPage 1700)) false).length := by
  apply length_ofRelease_of_long_page
  rw [length_pageUrl_namedPage]
  decide

/-- The announcement of a release begins with the lines of its header and a blank line,
and ends with the links.  It is short enough exactly when its header leaves room for the
links: always when the page has at most one thousand three hundred and forty-eight
characters, and never when the page alone fills that room. -/
theorem length_ofRelease_le_iff (release : Release) (mentionEveryone : Bool) :
    lineChars (headerLines release mentionEveryone) ++ ['\n'] <+:
        (ofRelease release mentionEveryone).toList ∧
      '\n' :: '\n' :: linksLine.toList <:+ (ofRelease release mentionEveryone).toList ∧
      ((ofRelease release mentionEveryone).length ≤ maxMessageChars <->
        (header release mentionEveryone).length ≤ 1642) ∧
      ((pageUrl release).length ≤ 1348 ->
        (ofRelease release mentionEveryone).length ≤ maxMessageChars) ∧
      (1642 < (pageUrl release).length ->
        maxMessageChars < (ofRelease release mentionEveryone).length) := by
  have fits :=
    length_assemble_le_iff (header release mentionEveryone) (releaseBody release)
  refine ⟨?_, links_suffix_assemble _ _, fits, ?_, ?_⟩
  · rw [← toList_header]
    exact header_prefix_assemble _ _
  · intro shortPage
    have headerLength := length_header_le release mentionEveryone
    exact fits.mpr (by omega)
  · exact length_ofRelease_of_long_page

end Announcement
end FlemishDesk
