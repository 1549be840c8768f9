import FlemishDesk.Proofs.Announcement.Layout
import FlemishDesk.Proofs.Number.Digits
import FlemishDesk.Proofs.Text.Occurrence

/-!
# Mentions in an announcement

The parts of an announcement meet at characters that are in no mention, so that a
mention is in the announcement only when it is in one of the parts.  Texts from
elsewhere are made harmless, and a harmless text stays so when it is trimmed and cut.
Only the page of a release is written as it is.
-/

namespace FlemishDesk
namespace Announcement

/-- A mark is an at sign and a word of small letters. -/
def IsMention (mark : List Char) : Prop :=
  ∃ word, mark = '@' :: word ∧ word ≠ [] ∧ ∀ c ∈ word, c.isLower = true

theorem isMention_everyone : IsMention everyone.toList :=
  ⟨"everyone".toList, by decide, by decide, List.all_eq_true.mp (by decide)⟩

theorem isMention_here : IsMention here.toList :=
  ⟨"here".toList, by decide, by decide, List.all_eq_true.mp (by decide)⟩

namespace IsMention

variable {mark text left right word : List Char} {c : Char}

theorem ne_nil (isMention : IsMention mark) : mark ≠ [] := by
  obtain ⟨word, rfl, _, _⟩ := isMention
  simp

theorem not_mem
    (isMention : IsMention mark)
    (notAt : c ≠ '@')
    (notLower : c.isLower = false) :
    c ∉ mark := by
  obtain ⟨word, rfl, _, lower⟩ := isMention
  intro present
  rcases List.mem_cons.mp present with same | inWord
  · exact notAt same
  · rw [lower c inWord] at notLower
    nomatch notLower

theorem infix_append_iff
    (isMention : IsMention mark)
    (absent : '@' ∉ left) :
    mark <:+: left ++ right <-> mark <:+: right := by
  obtain ⟨word, rfl, _, _⟩ := isMention
  exact Text.infix_append_iff_of_not_mem absent

theorem not_infix_of_not_mem
    (isMention : IsMention mark)
    (absent : '@' ∉ text) :
    ¬ mark <:+: text := by
  obtain ⟨word, rfl, _, _⟩ := isMention
  intro occurs
  exact absent (occurs.subset List.mem_cons_self)

/-- An at sign at the end of a text begins no mention in it. -/
theorem infix_concat_at_iff (isMention : IsMention mark) :
    mark <:+: text ++ ['@'] <-> mark <:+: text := by
  obtain ⟨word, rfl, nonempty, lower⟩ := isMention
  rw [List.infix_concat_iff]
  constructor
  · rintro (⟨front, whole⟩ | occurs)
    · -- The word is not empty, so that its last letter would be the at sign.
      have ends := congrArg List.getLast? whole
      rw [List.getLast?_append, List.getLast?_cons, List.getLast?_concat] at ends
      cases last : word.getLast? with
      | none => exact absurd (List.getLast?_eq_none_iff.mp last) nonempty
      | some letter =>
          rw [last] at ends
          obtain rfl : letter = '@' := by simpa using ends
          nomatch lower '@' (List.mem_of_getLast? last)
    · exact occurs
  · exact .inr

/-- Harmless words between pieces without a mention bring none about. -/
theorem not_infix_joinWith
    (isMention : IsMention mark)
    {name : String}
    (absent : '@' ∉ name.toList)
    {pieces : List (List Char)}
    (free : ∀ piece ∈ pieces, ¬ mark <:+: piece) :
    ¬ mark <:+: Text.joinWith (harmless name) pieces := by
  induction pieces with
  | nil => simpa [Text.joinWith] using isMention.ne_nil
  | cons piece pieces inductionHypothesis =>
      have inPiece := free piece List.mem_cons_self
      cases pieces with
      | nil => exact inPiece
      | cons next others =>
          have inRest := inductionHypothesis fun other member =>
            free other (List.mem_cons_of_mem piece member)
          have shape : Text.joinWith (harmless name) (piece :: next :: others) =
              (piece ++ ['@']) ++ invisibleSpace ::
                (name.toList ++ Text.joinWith (harmless name) (next :: others)) := by
            simp [harmless]
          rw [shape,
            Text.infix_append_cons_iff (isMention.not_mem (by decide) (by decide)),
            isMention.infix_concat_at_iff, isMention.infix_append_iff absent]
          rintro (occurs | occurs)
          · exact inPiece occurs
          · exact inRest occurs

/-- A text that is cut keeps free of mentions when what ends it has no at sign. -/
theorem not_infix_shorten
    (isMention : IsMention mark)
    {limit : Nat}
    {first : Char}
    {suffix : List Char}
    (apart : first ∉ mark)
    (absent : '@' ∉ first :: suffix)
    (free : ¬ mark <:+: text) :
    ¬ mark <:+: Text.shorten limit (first :: suffix) text := by
  unfold Text.shorten
  split
  · exact free
  · split
    · refine isMention.not_infix_of_not_mem ?_
      intro present
      exact absent (List.mem_of_mem_take present)
    · rw [Text.infix_append_cons_iff apart]
      rintro (occurs | occurs)
      · exact free (occurs.trans (List.take_prefix _ _).isInfix)
      · exact isMention.not_infix_of_not_mem
          (fun present => absent (List.mem_cons_of_mem first present)) occurs

end IsMention

/-! ## Texts that are made harmless -/

/-- The two mentions. -/
def mentions : List (List Char) :=
  [everyone.toList, here.toList]

theorem isMention_of_mem {mark : List Char} (present : mark ∈ mentions) :
    IsMention mark := by
  simp only [mentions, List.mem_cons, List.not_mem_nil, or_false] at present
  rcases present with rfl | rfl
  · exact isMention_everyone
  · exact isMention_here

theorem not_infix_neutralize
    {mark : List Char}
    (present : mark ∈ mentions)
    (text : List Char) :
    ¬ mark <:+: neutralize text := by
  have everyoneFree : ¬ everyone.toList <:+:
      Text.replaceAll everyone.toList (harmless "everyone") text :=
    isMention_everyone.not_infix_joinWith (by decide) fun _ piece =>
      (Text.piece_of_splitOn isMention_everyone.ne_nil piece).2
  refine (isMention_of_mem present).not_infix_joinWith (by decide) ?_
  intro piece ofSplit occurs
  obtain ⟨part, hereFree⟩ := Text.piece_of_splitOn isMention_here.ne_nil ofSplit
  simp only [mentions, List.mem_cons, List.not_mem_nil, or_false] at present
  rcases present with rfl | rfl
  · -- The second replacement only joins parts of a text that does not call everyone.
    exact everyoneFree (occurs.trans part)
  · exact hereFree occurs

theorem not_infix_title
    {mark : List Char}
    (present : mark ∈ mentions)
    (release : Release) :
    ¬ mark <:+: (title release).toList := by
  have isMention := isMention_of_mem present
  rw [title, Text.shortened, neutralized, String.toList_ofList, String.toList_ofList]
  exact isMention.not_infix_shorten (isMention.not_mem (by decide) (by decide))
    (by decide)
    (not_infix_neutralize present _)

/-- A body that is made harmless, or what stands for it when it is blank. -/
theorem not_infix_orElse
    {mark : List Char}
    (present : mark ∈ mentions)
    (text : String)
    {fallback : String}
    (absent : '@' ∉ fallback.toList) :
    ¬ mark <:+: (orElse (Text.trimmed (neutralized text)) fallback).toList := by
  unfold orElse
  split
  · exact (isMention_of_mem present).not_infix_of_not_mem absent
  · intro occurs
    rw [Text.trimmed, neutralized, String.toList_ofList, String.toList_ofList] at occurs
    exact not_infix_neutralize present _ (occurs.trans (Text.trim_infix _))

theorem not_infix_releaseBody
    {mark : List Char}
    (present : mark ∈ mentions)
    (release : Release) :
    ¬ mark <:+: (releaseBody release).toList :=
  not_infix_orElse present _ (by decide)

/-! ## The parts of an announcement -/

theorem at_not_mem_intText (value : Int) : '@' ∉ (Number.intText value).toList := by
  have inNumber := Number.not_mem_natText (show '@'.isDigit = false by decide)
  cases value with
  | ofNat n => exact inNumber n
  | negSucc n =>
      rw [Number.intText, String.toList_append, List.mem_append]
      rintro (inSign | inDigits)
      · revert inSign
        decide
      · exact inNumber (n + 1) inDigits

theorem at_not_mem_timestampLines (release : Release) :
    '@' ∉ lineChars (timestampLines release) := by
  unfold timestampLines
  split
  · nofun
  · split
    · nofun
    · next moment _ _ =>
        have absent := at_not_mem_intText moment.seconds
        simp [lineChars, absent]

/-- A body that is cut, with the links behind it. -/
theorem not_infix_shorten_links
    {mark : List Char}
    (present : mark ∈ mentions)
    (limit : Nat)
    {body : List Char}
    (free : ¬ mark <:+: body) :
    ¬ mark <:+: Text.shorten limit truncationSuffix.toList body ++
      '\n' :: '\n' :: linksLine.toList := by
  have isMention := isMention_of_mem present
  have bodyFree : ¬ mark <:+: Text.shorten limit truncationSuffix.toList body :=
    isMention.not_infix_shorten (isMention.not_mem (by decide) (by decide)) (by decide)
      free
  have footerFree : ¬ mark <:+: '\n' :: linksLine.toList :=
    isMention.not_infix_of_not_mem (by simp [at_not_mem_linksLine])
  rw [Text.infix_append_cons_iff (isMention.not_mem (by decide) (by decide))]
  rintro (occurs | occurs)
  · exact bodyFree occurs
  · exact footerFree occurs

/-- What stands behind the page of a release. -/
def behindPage (release : Release) (mentionEveryone : Bool) : List Char :=
  lineChars (timestampLines release) ++ '\n' ::
    (Text.shorten (bodyBudget (header release mentionEveryone) linksLine)
      truncationSuffix.toList (releaseBody release).toList ++
        '\n' :: '\n' :: linksLine.toList)

theorem not_infix_behindPage
    {mark : List Char}
    (present : mark ∈ mentions)
    (release : Release)
    (mentionEveryone : Bool) :
    ¬ mark <:+: behindPage release mentionEveryone := by
  have isMention := isMention_of_mem present
  have apart : '\n' ∉ mark := isMention.not_mem (by decide) (by decide)
  unfold behindPage
  rw [isMention.infix_append_iff (at_not_mem_timestampLines release),
    ← List.nil_append ('\n' :: (_ ++ _)), Text.infix_append_cons_iff apart]
  rintro (occurs | occurs)
  · exact isMention.ne_nil (List.infix_nil.mp occurs)
  · exact not_infix_shorten_links present _ (not_infix_releaseBody present release) occurs

/-- An announcement from its title on. -/
def fromTitle (release : Release) (mentionEveryone : Bool) : List Char :=
  ("**" ++ title release ++ "**").toList ++ '\n' ::
    (lineChars (urlLines release) ++ behindPage release mentionEveryone)

theorem toList_ofRelease (release : Release) (mentionEveryone : Bool) :
    (ofRelease release mentionEveryone).toList =
      lineChars (if mentionEveryone then [everyone] else []) ++
        fromTitle release mentionEveryone := by
  rw [ofRelease, toList_assemble, toList_header, headerLines, lineChars_append,
    lineChars_append, lineChars_append, lineChars_cons, fromTitle, behindPage]
  simp [lineChars]

theorem not_infix_titleLine
    {mark : List Char}
    (present : mark ∈ mentions)
    (release : Release) :
    ¬ mark <:+: ("**" ++ title release ++ "**").toList := by
  have isMention := isMention_of_mem present
  have apart : '*' ∉ mark := isMention.not_mem (by decide) (by decide)
  have spelled : ("**" ++ title release ++ "**").toList =
      ['*', '*'] ++ ((title release).toList ++ '*' :: ['*']) := by
    simp
  rw [spelled, isMention.infix_append_iff (by decide), Text.infix_append_cons_iff apart]
  rintro (occurs | occurs)
  · exact not_infix_title present release occurs
  · exact isMention.not_infix_of_not_mem (by decide) occurs

/-- From its title on, an announcement has the mentions of the page and no others. -/
theorem infix_fromTitle_iff
    {mark : List Char}
    (present : mark ∈ mentions)
    (release : Release)
    (mentionEveryone : Bool) :
    mark <:+: fromTitle release mentionEveryone <->
      mark <:+: (pageUrl release).toList := by
  have isMention := isMention_of_mem present
  have notBehind := not_infix_behindPage present release mentionEveryone
  rw [fromTitle, Text.infix_append_cons_iff (isMention.not_mem (by decide) (by decide)),
    or_iff_right (not_infix_titleLine present release), urlLines_eq]
  split
  · next empty =>
      have nothing : pageUrl release = "" := String.isEmpty_iff.mp empty
      rw [nothing]
      exact iff_of_false notBehind (isMention.not_infix_of_not_mem (by decide))
  · have spelled : lineChars [bracketed (pageUrl release)] ++
        behindPage release mentionEveryone =
        ['<'] ++ ((pageUrl release).toList ++
          '>' :: (['\n'] ++ behindPage release mentionEveryone)) := by
      simp [lineChars, bracketed]
    rw [spelled, isMention.infix_append_iff (by decide),
      Text.infix_append_cons_iff (isMention.not_mem (by decide) (by decide)),
      isMention.infix_append_iff (by decide)]
    exact or_iff_left notBehind

/-! ## Who is called -/

/-- Nobody is called, unless everyone is to be called: then this is done in the first
line, and nowhere else. -/
structure CallsOnly (mentionEveryone : Bool) (message : String) : Prop where
  notHere : Text.contains message here = false
  inFirstLine : ∀ before after, message.toList = before ++ everyone.toList ++ after ->
    mentionEveryone = true ∧ before = [] ∧ after.head? = some '\n'
  firstLine : mentionEveryone = true -> everyone.toList ++ ['\n'] <+: message.toList

theorem contains_eq_false_iff (text mark : String) :
    Text.contains text mark = false <-> ¬ mark.toList <:+: text.toList := by
  rw [← Text.occursIn_iff_infix, Bool.not_eq_true]
  rfl

/-- A text of which the rest calls nobody calls everyone at most in its first line. -/
theorem callsOnly_of_not_infix
    {mentionEveryone : Bool}
    {message : String}
    {rest : List Char}
    (spelled : message.toList = lineChars (if mentionEveryone then [everyone] else []) ++
      rest)
    (hereFree : ¬ here.toList <:+: rest)
    (everyoneFree : ¬ everyone.toList <:+: rest) :
    CallsOnly mentionEveryone message := by
  have hereApart : '\n' ∉ here.toList := by decide
  have everyoneApart : '\n' ∉ everyone.toList := by decide
  cases mentionEveryone with
  | false =>
      have same : message.toList = rest := spelled
      refine ⟨?_, ?_, nofun⟩
      · rw [contains_eq_false_iff, same]
        exact hereFree
      · intro before after whole
        exact absurd ⟨before, after, whole.symm.trans same⟩ everyoneFree
  | true =>
      have lines : message.toList = everyone.toList ++ '\n' :: rest :=
        spelled.trans (by simp [lineChars])
      refine ⟨?_, ?_, fun _ => ⟨rest, by rw [lines]; simp⟩⟩
      · rw [contains_eq_false_iff, lines, Text.infix_append_cons_iff hereApart]
        have notInEveryone : ¬ here.toList <:+: everyone.toList := by
          rw [← Text.occursIn_iff_infix]
          decide
        rintro (occurs | occurs)
        · exact notInEveryone occurs
        · exact hereFree occurs
      · intro before after whole
        rw [lines] at whole
        rcases Text.occurrence_beside everyoneApart whole with
          ⟨ending, first, rfl⟩ | ⟨start, _, inRest⟩
        · -- The first line is the mention itself, and has room for no second one.
          have lengths := congrArg List.length first
          simp only [List.length_append] at lengths
          have noStart : before = [] := List.length_eq_zero_iff.mp (by omega)
          have noEnding : ending = [] := List.length_eq_zero_iff.mp (by omega)
          rw [noEnding]
          exact ⟨rfl, noStart, rfl⟩
        · exact absurd ⟨start, after, inRest.symm⟩ everyoneFree

/-- A page can call everyone, although nobody is to be called. -/
theorem not_callsOnly_of_calling_page :
    ¬ CallsOnly false (ofRelease (pageOnly "https://example.com/@everyone") false) := by
  intro calls
  have inPage :
      everyone.toList <:+:
        (pageUrl (pageOnly "https://example.com/@everyone")).toList := by
    rw [← Text.occursIn_iff_infix]
    decide
  obtain ⟨before, after, whole⟩ :=
    (infix_fromTitle_iff (by simp [mentions]) (pageOnly "https://example.com/@everyone")
      false).mpr
      inPage
  obtain ⟨flagged, _⟩ := calls.inFirstLine before after (by
    rw [toList_ofRelease]
    exact whole.symm)
  nomatch flagged

/-- The announcement of a release calls nobody but everyone in its first line, when it
is to do so, exactly when the page of the release has no mention. -/
theorem callsOnly_ofRelease_iff (release : Release) (mentionEveryone : Bool) :
    CallsOnly mentionEveryone (ofRelease release mentionEveryone) <->
      Text.contains (pageUrl release) here = false ∧
        Text.contains (pageUrl release) everyone = false := by
  have spelled := toList_ofRelease release mentionEveryone
  have hereIff : here.toList <:+: fromTitle release mentionEveryone <-> _ :=
    infix_fromTitle_iff (by simp [mentions]) release mentionEveryone
  have everyoneIff : everyone.toList <:+: fromTitle release mentionEveryone <-> _ :=
    infix_fromTitle_iff (by simp [mentions]) release mentionEveryone
  rw [contains_eq_false_iff, contains_eq_false_iff, ← hereIff, ← everyoneIff]
  constructor
  · rintro ⟨notHere, inFirstLine, _⟩
    rw [contains_eq_false_iff, spelled] at notHere
    refine ⟨fun occurs => notHere (occurs.trans (List.suffix_append _ _).isInfix), ?_⟩
    rintro ⟨before, after, whole⟩
    -- What is behind the first line does not begin the message.
    obtain ⟨flagged, begins, _⟩ := inFirstLine (lineChars _ ++ before) after (by
      rw [spelled, ← whole, List.append_assoc, List.append_assoc, List.append_assoc])
    rw [flagged] at begins
    nomatch begins
  · rintro ⟨hereFree, everyoneFree⟩
    exact callsOnly_of_not_infix spelled hereFree everyoneFree

end Announcement
end FlemishDesk
