import FlemishDesk.Command.Session
import FlemishDesk.Proofs.Chat.Conversation
import FlemishDesk.Proofs.Language.Words
import FlemishDesk.Proofs.Moderation.LastWords
import FlemishDesk.Proofs.Number.Digits
import FlemishDesk.Proofs.Text.Lines

/-!
# The report on moderation

The report on a text is read back from what is printed.  Nothing that is put into a line
breaks it, and no two lines start alike, so that every entry has one value.  The values
are those that the gate goes by, and the verdict is the one that a chat about the text
follows.
-/

namespace FlemishDesk

namespace Moderation

/-- A conversation of one text passes when the text says something, fits the budget,
holds no listed phrase and is in the dialect. -/
theorem moderateInput_ofUser_eq_allowed_iff (text : String) (budget : Nat) :
    moderateInput [.ofUser text] budget = .allowed <->
      Text.blank text = false ∧ text.length ≤ budget ∧ injection? text = none ∧
        languageRequest? text = none ∧ Language.ofUser text = .target := by
  have size : Chat.totalLength [.ofUser text] = text.length := rfl
  rw [moderateInput_eq_allowed_iff, size]
  cases silent : Text.blank text with
  | true =>
      simp [Chat.lastUserText?, Chat.Message.isUserText, Chat.Message.ofUser, silent,
        verdictOn]
  | false =>
      have said : Chat.lastUserText? [.ofUser text] = some text := by
        simp [Chat.lastUserText?, Chat.Message.isUserText, Chat.Message.ofUser, silent]
      rw [said, verdictOn, moderateText_eq_allowed_iff]
      simp

end Moderation

namespace Chat

variable {σ : Type}

/-- A conversation, of which it is kept what the model was asked, went by a verdict: the
messages are what it was asked, once, if the verdict lets them pass; if not, it was not
asked and the verdict is the outcome. -/
def WentBy
    (verdict : Moderation.Verdict)
    (messages : List Message)
    (run : Outcome × σ × List (List Message)) : Prop :=
  if verdict.isAllowed then run.2.2 = [messages]
  else run.2.2 = [] ∧ run.1 = .refused verdict

/-- A conversation goes by the verdict of the gate and by no other. -/
theorem wentBy_converse_iff
    (model : Model σ)
    (budget : Nat)
    (messages : List Message)
    (state : σ)
    (verdict : Moderation.Verdict) :
    WentBy verdict messages (converse model.recorded budget messages (state, [])) <->
      verdict = Moderation.moderateInput messages budget := by
  rw [converse]
  by_cases passes : Moderation.moderateInput messages budget = .allowed
  · simp [WentBy, Model.recorded, passes]
  · have refused : (Moderation.moderateInput messages budget).isAllowed = false := by
      simpa [← Bool.not_eq_true] using passes
    simp only [WentBy, refused]
    cases allowed : verdict.isAllowed with
    | true =>
        rw [Moderation.Verdict.isAllowed_iff] at allowed
        simpa [allowed] using Ne.symm passes
    | false => simp [eq_comm]

end Chat

namespace Command

variable {σ : Type}

/-- What a chat prints and leaves behind is that of the conversation. -/
theorem chat_eq
    (host : Host σ)
    (colours : Bool)
    (settings : Settings)
    (text : String)
    (scene : Scene σ) :
    let run := Chat.converse (Companion.asModel host.network settings.model)
      settings.server.limits.maxInputChars [.ofUser text] scene.outside
    (chat host colours settings text scene).output = Report.chatOutcome colours run.1 ∧
      (chat host colours settings text scene).scene.outside = run.2 := by
  dsimp only [chat, Chat.Message.ofUser]
  generalize Chat.converse _ _ _ _ = run
  exact ⟨rfl, rfl⟩

end Command

namespace Report

/-! ## Styles and sheets -/

theorem newline_mem_paint_iff (colours : Bool) (style : Style) (text : String) :
    '\n' ∈ (paint colours style text).toList <-> '\n' ∈ text.toList := by
  have notInOpening : '\n' ∉ style.opening.toList := by
    cases style <;> decide
  have notInClosing : '\n' ∉ closing.toList := by
    decide
  cases colours with
  | false => rfl
  | true =>
      have notInBoth : '\n' ∉ closing.toList ++ style.opening.toList := by
        simp [notInOpening, notInClosing]
      have kept := Text.mem_replaceAll_iff (by decide) notInClosing notInBoth text.toList
      simp [paint, Text.replaced, notInOpening, notInClosing, kept]

/-- The lines of a sheet are those that are put on it, and an empty one behind the last
end. -/
theorem lines_sheet
    {lines : List String}
    (unbroken : ∀ line ∈ lines, '\n' ∉ line.toList) :
    Text.lines (sheet lines).toList = lines.map String.toList ++ [[]] := by
  induction lines with
  | nil => exact Text.lines_of_not_mem List.not_mem_nil
  | cons line others inductionHypothesis =>
      obtain ⟨first, rest⟩ := List.forall_mem_cons.mp unbroken
      have whole : (sheet (line :: others)).toList =
          line.toList ++ '\n' :: (sheet others).toList := by
        simp [sheet]
      rw [whole, Text.lines_cons first, inductionHypothesis rest, List.map_cons,
        List.cons_append]

/-! ## Entries -/

/-- What the report tells about a text, apart from its words. -/
inductive Entry where
  | inbound
  | outbound
  | injection
  | languageRequest
  | verdict

namespace Entry

/-- The start of the line on which an entry stands. -/
def label : Entry -> String
  | inbound => "  Inbound:  "
  | outbound => "  Outbound: "
  | injection => "  Injection: "
  | languageRequest => "  Language request: "
  | verdict => "  Verdict: "

/-- What the gate says. -/
def value (colours : Bool) (text : String) (budget : Nat) : Entry -> String
  | inbound => kind colours (Language.ofUser text)
  | outbound => kind colours (Language.ofModel text)
  | injection => finding colours (Moderation.injection? text)
  | languageRequest => finding colours (Moderation.languageRequest? text)
  | verdict => Report.verdict colours (Moderation.moderateInput [.ofUser text] budget)

end Entry

/-- A report has the value on a line that starts with the label of the entry. -/
def Shows (report : String) (entry : Entry) (value : String) : Prop :=
  (entry.label ++ value).toList ∈ Text.lines report.toList

/-- The line with the words of a text. -/
def wordsLine (colours : Bool) (words : List String) : String :=
  "  Tokens (" ++ Number.natText words.length ++ "): " ++
    paint colours .dimmed (Text.join " " words)

/-- The line with the hits of a text. -/
def hitsLine (score : Language.Score) : String :=
  "  Hits: target " ++ Number.natText score.target ++
    "  |  en " ++ Number.natText score.english ++
    "  |  fr " ++ Number.natText score.french ++
    "  |  de " ++ Number.natText score.german

/-- The lines of the report on a text that hold no entry. -/
def plainLines (colours : Bool) (text : String) : List String :=
  ["", paint colours .bold "=== Moderation Report ===",
    wordsLine colours (Language.tokens text),
    hitsLine (Language.Score.ofTokens (Language.tokens text))]

/-- The lines of the report on a text. -/
def classificationLines (colours : Bool) (text : String) (budget : Nat) : List String :=
  let line (entry : Entry) := entry.label ++ entry.value colours text budget
  ["", paint colours .bold "=== Moderation Report ===", "",
    wordsLine colours (Language.tokens text),
    hitsLine (Language.Score.ofTokens (Language.tokens text)),
    line .inbound, line .outbound, line .injection, line .languageRequest, "",
    line .verdict]

theorem classification_eq (colours : Bool) (text : String) (budget : Nat) :
    classification colours text budget =
      sheet (classificationLines colours text budget) := rfl

/-- A line of the report holds an entry or is a plain one; the order does not matter
below. -/
theorem mem_classificationLines_iff
    (colours : Bool)
    (text : String)
    (budget : Nat)
    (line : String) :
    line ∈ classificationLines colours text budget <->
      line ∈ plainLines colours text ∨
        ∃ entry : Entry, line = entry.label ++ entry.value colours text budget := by
  unfold classificationLines plainLines
  simp only [List.mem_cons, List.not_mem_nil, or_false]
  constructor
  · rintro (here | here | here | here | here | here | here | here | here | here | here)
    all_goals first | exact .inr ⟨_, here⟩ | simp [here]
  · rintro ((rfl | rfl | rfl | rfl) | ⟨entry, rfl⟩)
    on_goal 5 => cases entry
    all_goals simp

/-! ## Unbroken lines -/

theorem newline_not_mem_join_tokens (text : String) :
    '\n' ∉ (Text.join " " (Language.tokens text)).toList := by
  intro present
  rcases Text.mem_toList_join present with inSeparator | ⟨word, said, inWord⟩
  · revert inSeparator
    decide
  · exact absurd (Language.letters_of_mem_tokens said '\n' inWord) (by decide)

theorem newline_not_mem_finding
    (colours : Bool)
    {phrases : List String}
    (unbroken : ∀ phrase ∈ phrases, '\n' ∉ phrase.toList)
    (text : String) :
    '\n' ∉ (finding colours (Moderation.firstPhrase? phrases text)).toList := by
  cases found : Moderation.firstPhrase? phrases text with
  | none => simp [finding, newline_mem_paint_iff]
  | some phrase =>
      have listed := unbroken phrase (List.mem_of_find?_eq_some found)
      simp [finding, newline_mem_paint_iff, listed]

theorem newline_not_mem_value
    (colours : Bool)
    (text : String)
    (budget : Nat)
    (entry : Entry) :
    '\n' ∉ (entry.value colours text budget).toList := by
  have inKind (shown : Language.Kind) : '\n' ∉ (kind colours shown).toList := by
    cases shown <;> simp [kind, newline_mem_paint_iff]
  cases entry with
  | inbound => exact inKind _
  | outbound => exact inKind _
  | injection => exact newline_not_mem_finding colours (by decide +kernel) text
  | languageRequest => exact newline_not_mem_finding colours (by decide +kernel) text
  | verdict =>
      rw [Entry.value, verdict, newline_mem_paint_iff]
      cases Moderation.moderateInput [.ofUser text] budget <;> decide

theorem newline_not_mem_line
    (colours : Bool)
    (text : String)
    (budget : Nat)
    (entry : Entry) :
    '\n' ∉ (entry.label ++ entry.value colours text budget).toList := by
  have inLabel : '\n' ∉ entry.label.toList := by
    cases entry <;> decide
  rw [String.toList_append, List.mem_append, not_or]
  exact ⟨inLabel, newline_not_mem_value colours text budget entry⟩

theorem newline_not_mem_wordsLine (colours : Bool) (text : String) :
    '\n' ∉ (wordsLine colours (Language.tokens text)).toList := by
  have inNumber := Number.not_mem_natText (show '\n'.isDigit = false by decide)
  have inWords := newline_not_mem_join_tokens text
  simp [wordsLine, newline_mem_paint_iff, inNumber, inWords]

theorem newline_not_mem_hitsLine (score : Language.Score) :
    '\n' ∉ (hitsLine score).toList := by
  have inNumber := Number.not_mem_natText (show '\n'.isDigit = false by decide)
  unfold hitsLine
  simp only [String.toList_append, List.mem_append, not_or]
  refine ⟨⟨⟨⟨⟨⟨⟨?_, inNumber _⟩, ?_⟩, inNumber _⟩, ?_⟩, inNumber _⟩, ?_⟩, inNumber _⟩
  all_goals decide

theorem newline_not_mem_of_mem_plainLines (colours : Bool) (text : String) :
    ∀ line ∈ plainLines colours text, '\n' ∉ line.toList := by
  have inHeading : '\n' ∉ (paint colours .bold "=== Moderation Report ===").toList := by
    rw [newline_mem_paint_iff]
    decide
  unfold plainLines
  simp only [List.forall_mem_cons]
  exact ⟨by decide, inHeading, newline_not_mem_wordsLine colours text,
    newline_not_mem_hitsLine _, List.forall_mem_nil _⟩

theorem newline_not_mem_of_mem_classificationLines
    (colours : Bool)
    (text : String)
    (budget : Nat) :
    ∀ line ∈ classificationLines colours text budget, '\n' ∉ line.toList := by
  intro line present
  rcases (mem_classificationLines_iff colours text budget line).mp
    present with plain | ⟨entry, rfl⟩
  · exact newline_not_mem_of_mem_plainLines colours text line plain
  · exact newline_not_mem_line colours text budget entry

/-! ## Values -/

/-- No label is the start of another. -/
theorem eq_of_isStart_label
    {one another : Entry}
    (starts : one.label.toList <+: another.label.toList) :
    one = another := by
  cases one <;> cases another <;> first | rfl | exact absurd starts (by decide)

theorem eq_of_label_append_eq
    {one another : Entry}
    {value shown : String}
    (same : one.label ++ value = another.label ++ shown) :
    one = another ∧ value = shown := by
  have starts : one.label.toList <+: (another.label ++ shown).toList := by
    simp [← same]
  have startsToo : another.label.toList <+: (another.label ++ shown).toList := by
    simp
  obtain rfl : one = another := by
    rcases List.prefix_or_prefix_of_prefix starts startsToo with shorter | longer
    · exact eq_of_isStart_label shorter
    · exact (eq_of_isStart_label longer).symm
  simpa using same

theorem label_append_ne_empty (entry : Entry) (value : String) :
    entry.label ++ value ≠ "" := by
  cases entry <;> simp [Entry.label]

/-- The heading starts with another character than the labels, and the lines with the
words and the hits have another one in the third place. -/
theorem label_append_not_mem_plainLines
    (colours : Bool)
    (text : String)
    (entry : Entry)
    (value : String) :
    entry.label ++ value ∉ plainLines colours text := by
  unfold plainLines
  simp only [List.mem_cons, List.not_mem_nil, or_false]
  rintro (isEmpty | isHeading | isWords | isHits)
  · exact label_append_ne_empty entry value isEmpty
  · have first := congrArg (fun line => line.toList[0]?) isHeading
    cases colours <;> cases entry <;> simp [Entry.label, paint, Style.opening] at first
  · have third := congrArg (fun line => line.toList[2]?) isWords
    unfold wordsLine at third
    cases entry <;> simp [Entry.label] at third
  · have third := congrArg (fun line => line.toList[2]?) isHits
    unfold hitsLine at third
    cases entry <;> simp [Entry.label] at third

/-- Every entry of the report has one value, which is what the gate says. -/
theorem shows_classification_iff
    (colours : Bool)
    (text : String)
    (budget : Nat)
    (entry : Entry)
    (value : String) :
    Shows (classification colours text budget) entry value <->
      value = entry.value colours text budget := by
  have nonempty : (entry.label ++ value).toList ≠ [] :=
    mt String.toList_eq_nil_iff.mp (label_append_ne_empty entry value)
  have injective : Function.Injective String.toList := fun _ _ => String.toList_inj.mp
  rw [Shows, classification_eq,
    lines_sheet (newline_not_mem_of_mem_classificationLines colours text budget),
      List.mem_append,
    List.mem_singleton, or_iff_left nonempty, List.mem_map_of_injective injective,
    mem_classificationLines_iff,
    or_iff_right (label_append_not_mem_plainLines colours text _ _)]
  constructor
  · rintro ⟨another, same⟩
    obtain ⟨rfl, rfl⟩ := eq_of_label_append_eq same
    rfl
  · rintro rfl
    exact ⟨entry, rfl⟩

theorem kind_injective (colours : Bool) : Function.Injective (kind colours) := by
  intro one another same
  cases colours <;> cases one <;> cases another <;> revert same <;> decide +kernel

theorem verdict_injective (colours : Bool) : Function.Injective (verdict colours) := by
  have listed (given : Moderation.Verdict) : given ∈ Moderation.Verdict.all := by
    cases given <;> decide
  have apart : ∀ one ∈ Moderation.Verdict.all, ∀ another ∈ Moderation.Verdict.all,
      verdict colours one = verdict colours another -> one = another := by
    cases colours <;> decide +kernel
  exact fun one another => apart one (listed one) another (listed another)

/-- A phrase stands between quotation marks and in another colour. -/
theorem finding_none_eq_iff (colours : Bool) (found : Option String) :
    finding colours none = finding colours found <-> found = none := by
  constructor
  · intro same
    cases found with
    | none => rfl
    | some phrase =>
        have start := congrArg (fun shown => shown.toList.take 4) same
        cases colours <;> simp [finding, paint, Style.opening, Style.numbers] at start
  · rintro rfl
    rfl

/-! ## Agreement -/

/-- Every entry of the report on a text has one value.  The languages it shows are those
that are found for a text of the user and for one of the model.  It shows the verdict
that lets pass exactly when the text says something and fits the budget and the report
itself shows no phrase, no request and the dialect.  The verdict it shows is the one by
which a conversation of just this text goes, whatever the model.  This report and this
conversation are what the program prints and holds, both with the budget of its
settings. -/
theorem classification_agrees_with_gate (colours : Bool) (text : String) (budget : Nat) :
    let report := classification colours text budget
    (∀ entry, ∃! value, Shows report entry value) ∧
    (∀ shown, Shows report .inbound (kind colours shown) <->
      shown = Language.ofUser text) ∧
    (∀ shown, Shows report .outbound (kind colours shown) <->
      shown = Language.ofModel text) ∧
    (Shows report .verdict (verdict colours .allowed) <->
      Text.blank text = false ∧ text.length ≤ budget ∧
        Shows report .injection (finding colours none) ∧
        Shows report .languageRequest (finding colours none) ∧
        Shows report .inbound (kind colours .target)) ∧
    (∀ {σ : Type} (model : Chat.Model σ) (state : σ) (shown : Moderation.Verdict),
      Shows report .verdict (verdict colours shown) <->
        Chat.WentBy shown [.ofUser text]
          (Chat.converse model.recorded budget [.ofUser text] (state, []))) ∧
    ∀ {σ : Type} (host : Command.Host σ) (lookup : Settings.Lookup) (settings : Settings)
      (scene : Command.Scene σ),
      let coloured := Command.showsColours lookup host.isTerminal
      let limit := settings.server.limits.maxInputChars
      let model := Companion.asModel host.network settings.model
      let run := Chat.converse model limit [.ofUser text] scene.outside
      let chat := Command.perform host lookup settings scene (.chat text)
      (Command.perform host lookup settings scene (.classify text)).output =
        classification coloured text limit ∧
      chat.output = chatOutcome coloured run.1 ∧ chat.scene.outside = run.2 := by
  intro report
  have shows (entry : Entry) (value : String) :
      Shows report entry value <-> value = entry.value colours text budget :=
    shows_classification_iff colours text budget entry value
  refine ⟨fun entry => ?_, fun shown => ?_, fun shown => ?_, ?_, ?_, ?_⟩
  · exact ⟨_, (shows entry _).mpr rfl, fun value => (shows entry value).mp⟩
  · rw [shows, Entry.value, (kind_injective colours).eq_iff]
  · rw [shows, Entry.value, (kind_injective colours).eq_iff]
  · rw [shows, shows, shows, shows, Entry.value, Entry.value, Entry.value, Entry.value,
      (kind_injective colours).eq_iff, (verdict_injective colours).eq_iff,
      finding_none_eq_iff, finding_none_eq_iff, eq_comm,
      Moderation.moderateInput_ofUser_eq_allowed_iff, @eq_comm _ Language.Kind.target]
  · intro σ model state shown
    rw [shows, Entry.value, (verdict_injective colours).eq_iff, Chat.wentBy_converse_iff]
  · intro σ host lookup settings scene
    exact ⟨rfl, Command.chat_eq host _ settings text scene⟩

end Report
end FlemishDesk
