import FlemishDesk.Proofs.Language.Balance
import FlemishDesk.Proofs.Moderation.Phrase

/-!
# The last words of the user

A conversation is too long exactly when all its messages together exceed the budget: the
last words of the user are one of these messages, so the check on them alone never
decides.  Within the budget the verdict depends on these words only.  They are let pass
when no listed phrase is in their lowercase form and they are in the dialect, and then
they would pass as an answer as well.
-/

namespace FlemishDesk

namespace Chat

variable {messages : List Message} {text : String}

theorem isUserText_eq_false_iff (message : Message) :
    message.isUserText = false <->
      (message.role = .user -> Text.blank message.content = true) := by
  simp only [Message.isUserText, Bool.and_eq_false_imp, beq_iff_eq, Bool.not_eq_false']

/-- The text is what a message of the user says, behind which all messages of the user
are blank. -/
def LastSaid (messages : List Message) (text : String) : Prop :=
  Text.blank text = false ∧ ∃ earlier later, messages = earlier ++ .ofUser text :: later ∧
    ∀ message ∈ later, message.role = .user -> Text.blank message.content = true

/-- The search from the end finds what was said last. -/
theorem lastUserText?_eq_some_iff :
    lastUserText? messages = some text <-> LastSaid messages text := by
  constructor
  · intro found
    obtain ⟨⟨role, content⟩, first, rfl⟩ := Option.map_eq_some_iff.mp found
    obtain ⟨said, later, earlier, reversed, silent⟩ :=
      List.find?_eq_some_iff_append.mp first
    simp only [Message.isUserText, Bool.and_eq_true, beq_iff_eq,
      Bool.not_eq_true'] at said
    obtain ⟨rfl, notBlank⟩ := said
    -- What the search passes over stands behind the message that it finds.
    refine ⟨notBlank, earlier.reverse, later.reverse, ?_, ?_⟩
    · rw [← List.reverse_reverse messages, reversed]
      simp [Message.ofUser]
    · intro message present
      have unsaid := silent message (List.mem_reverse.mp present)
      exact (isUserText_eq_false_iff message).mp (by simpa using unsaid)
  · rintro ⟨notBlank, earlier, later, rfl, silent⟩
    have said : (Message.ofUser text).isUserText = true := by
      simp [Message.isUserText, Message.ofUser, notBlank]
    exact lastUserText?_append_cons said earlier fun message present =>
      (isUserText_eq_false_iff message).mpr (silent message present)

/-- The last words are no longer than the conversation. -/
theorem length_le_totalLength_of_lastUserText?
    (said : lastUserText? messages = some text) :
    text.length ≤ totalLength messages := by
  obtain ⟨_, earlier, later, rfl, _⟩ := lastUserText?_eq_some_iff.mp said
  have present : Message.ofUser text ∈ earlier ++ .ofUser text :: later := by simp
  exact length_content_le_totalLength present

/-- What is in the dialect as a text of the user is shown as an answer of the model. -/
theorem conclude_of_ofUser (inDialect : Language.ofUser text = .target) :
    conclude (some text) = .reply text := by
  have asAnswer : Language.ofModel text = .target :=
    (Language.classify_eq_classify text .outbound .inbound).trans inDialect
  simp [conclude, Moderation.moderateOutput, asAnswer]

end Chat

namespace Moderation

variable {messages : List Chat.Message} {budget : Nat} {text : String}

/-- The verdict on what the user said last, if anything, in a conversation within its
budget. -/
def verdictOn : Option String -> Verdict
  | none => .nonTargetLanguageRefused
  | some text => moderateText text text.length

/-- A budget that suffices has no influence. -/
theorem moderateText_of_length_le (within : text.length ≤ budget) :
    moderateText text budget = moderateText text text.length := by
  rw [moderateText, moderateText, if_neg (Nat.not_lt.mpr within),
    if_neg (Nat.lt_irrefl _)]

/-- Within the budget the verdict is read off the last words of the user. -/
theorem moderateInput_of_totalLength_le (within : Chat.totalLength messages ≤ budget) :
    moderateInput messages budget = verdictOn (Chat.lastUserText? messages) := by
  rw [moderateInput, if_neg (Nat.not_lt.mpr within)]
  cases said : Chat.lastUserText? messages with
  | none => rfl
  | some text =>
      -- The second check of the size repeats one that was passed.
      have short := Chat.length_le_totalLength_of_lastUserText? said
      exact moderateText_of_length_le (Nat.le_trans short within)

theorem moderateInput_of_lt_totalLength (beyond : budget < Chat.totalLength messages) :
    moderateInput messages budget = .tooLong := by
  rw [moderateInput, if_pos beyond]

theorem verdictOn_ne_tooLong (said : Option String) : verdictOn said ≠ .tooLong := by
  cases said with
  | none => simp [verdictOn]
  | some text =>
      rw [verdictOn, moderateText, if_neg (Nat.lt_irrefl _)]
      repeat' split
      all_goals simp

theorem moderateText_eq_allowed_iff (text : String) (budget : Nat) :
    moderateText text budget = .allowed <->
      text.length ≤ budget ∧ injection? text = none ∧ languageRequest? text = none ∧
        Language.ofUser text = .target := by
  rw [moderateText, ← Nat.not_lt, ← Option.not_isSome_iff_eq_none,
    ← Option.not_isSome_iff_eq_none]
  split_ifs <;> simp_all

/-- No phrase is found exactly when none stands in the lowercase form. -/
theorem firstPhrase?_eq_none_iff (phrases : List String) (text : String) :
    firstPhrase? phrases text = none <->
      ∀ phrase ∈ phrases, ¬ phrase.toList <:+: Text.lower text.toList := by
  simp only [firstPhrase?, List.find?_eq_none, Text.occursIn_iff_infix]

theorem verdictOn_eq_allowed_iff (said : Option String) :
    verdictOn said = .allowed <->
      ∃ text, said = some text ∧
        (∀ phrase ∈ listedPhrases, ¬ phrase.toList <:+: Text.lower text.toList) ∧
        Language.ofUser text = .target := by
  cases said with
  | none => simp [verdictOn]
  | some text =>
      rw [verdictOn, moderateText_eq_allowed_iff, injection?, languageRequest?,
        firstPhrase?_eq_none_iff, firstPhrase?_eq_none_iff]
      simp only [Nat.le_refl, true_and, Option.some.injEq, exists_eq_left', listedPhrases,
        List.forall_mem_append, and_assoc]

theorem moderateInput_eq_tooLong_iff (messages : List Chat.Message) (budget : Nat) :
    moderateInput messages budget = .tooLong <-> budget < Chat.totalLength messages := by
  refine ⟨fun refused => ?_, moderateInput_of_lt_totalLength⟩
  by_contra within
  rw [moderateInput_of_totalLength_le (Nat.not_lt.mp within)] at refused
  exact verdictOn_ne_tooLong _ refused

theorem moderateInput_eq_allowed_iff (messages : List Chat.Message) (budget : Nat) :
    moderateInput messages budget = .allowed <->
      Chat.totalLength messages ≤ budget ∧
        verdictOn (Chat.lastUserText? messages) = .allowed := by
  rcases Nat.lt_or_ge budget (Chat.totalLength messages) with beyond | within
  · rw [moderateInput_of_lt_totalLength beyond]
    simp [Nat.not_le.mpr beyond]
  · rw [moderateInput_of_totalLength_le within]
    simp [within]

/-- A conversation is too long exactly when its messages together exceed the budget, and
what the user said last never exceeds it alone.  Two conversations within their budgets
in which the user said the same last get the same verdict.  A conversation is let pass
exactly when it is within its budget, the user said something, no listed phrase is in
the lowercase form of what was said last, and this is in the dialect.  A model that
answers with just these words is then shown. -/
theorem verdict_depends_on_last_words (messages : List Chat.Message) (budget : Nat) :
    (∀ text, Chat.lastUserText? messages = some text <-> Chat.LastSaid messages text) ∧
    (moderateInput messages budget = .tooLong <-> budget < Chat.totalLength messages) ∧
    (∀ text, Chat.LastSaid messages text -> text.length ≤ Chat.totalLength messages) ∧
    (∀ others otherBudget,
      Chat.totalLength messages ≤ budget -> Chat.totalLength others ≤ otherBudget ->
      Chat.lastUserText? messages = Chat.lastUserText? others ->
      moderateInput messages budget = moderateInput others otherBudget) ∧
    (moderateInput messages budget = .allowed <->
      Chat.totalLength messages ≤ budget ∧
        ∃ text, Chat.LastSaid messages text ∧
          (∀ phrase ∈ injectionPhrases, ¬ phrase.toList <:+: Text.lower text.toList) ∧
          (∀ phrase ∈ languageRequestPhrases, ¬ phrase.toList <:+:
            Text.lower text.toList) ∧
          Language.ofUser text = .target) ∧
    ∀ text, Chat.LastSaid messages text -> moderateInput messages budget = .allowed ->
      ∀ {σ : Type} (model : Chat.Model σ) (state after : σ),
        model messages state = (some text, after) ->
        Chat.converse model budget messages state = (.reply text, after) := by
  refine ⟨fun text => Chat.lastUserText?_eq_some_iff,
    moderateInput_eq_tooLong_iff messages budget, ?_, ?_, ?_, ?_⟩
  · intro text said
    exact Chat.length_le_totalLength_of_lastUserText?
      (Chat.lastUserText?_eq_some_iff.mpr said)
  · intro others otherBudget within othersWithin same
    rw [moderateInput_of_totalLength_le within,
      moderateInput_of_totalLength_le othersWithin, same]
  · rw [moderateInput_eq_allowed_iff, verdictOn_eq_allowed_iff]
    simp only [Chat.lastUserText?_eq_some_iff, listedPhrases, List.forall_mem_append,
      and_assoc]
  · intro text said allowed σ model state after answered
    obtain ⟨_, passed⟩ := (moderateInput_eq_allowed_iff messages budget).mp allowed
    rw [Chat.lastUserText?_eq_some_iff.mpr said, verdictOn_eq_allowed_iff] at passed
    obtain ⟨_, same, _, inDialect⟩ := passed
    obtain rfl := Option.some.inj same
    simp [Chat.converse, allowed, answered, Chat.conclude_of_ofUser inDialect]

/-- A conversation with a foreign text before the last words of the user and a blank one
behind them. -/
def foreignBefore : List Chat.Message :=
  [.ofUser "Please explain it", ⟨.assistant, "Awel, nee"⟩, .ofUser "Awel, ge",
    .ofUser "\u00a0"]

/-- The conversation just fits its budget, and gets the verdict that its last words get
alone. -/
theorem verdict_depends_on_last_words_foreign_before :
    Chat.LastSaid foreignBefore "Awel, ge" ∧
    moderateInput foreignBefore 34 = .tooLong ∧
    moderateInput foreignBefore 35 = moderateInput [.ofUser "Awel, ge"] 8 ∧
    moderateInput foreignBefore 35 = .allowed ∧
    Chat.converse (fun _ calls => (some "Awel, ge", calls + 1)) 35 foreignBefore 0 =
      (.reply "Awel, ge", 1) := by
  obtain ⟨finds, tooLong, _, _, _, _⟩ := verdict_depends_on_last_words foreignBefore 34
  obtain ⟨_, _, _, alike, _, shown⟩ := verdict_depends_on_last_words foreignBefore 35
  have said := (finds "Awel, ge").mp (by decide +kernel)
  have same := alike [.ofUser "Awel, ge"] 8 (by decide) (by decide) (by decide +kernel)
  have allowed : moderateInput [.ofUser "Awel, ge"] 8 = .allowed := by decide +kernel
  have passes := same.trans allowed
  exact ⟨said, tooLong.mpr (by decide), same, passes, shown _ said passes _ 0 1 rfl⟩

end Moderation
end FlemishDesk
