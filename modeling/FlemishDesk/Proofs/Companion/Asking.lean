import FlemishDesk.Companion.Client
import FlemishDesk.Proofs.Chat.Conversation
import FlemishDesk.Proofs.Http.Calls
import FlemishDesk.Proofs.Text.Occurrence

/-!
# Asking the model

The model is asked with one call, which carries the instructions and the conversation as
JSON, or with none: a hosted server does not call its own machine.  There is an answer
exactly when the call is answered in time and with success, and the body holds a message
that says something; every other way to end is a failure without a second call.  So
whatever the model does, no blank answer is ever shown.
-/

namespace FlemishDesk

namespace Json

/-! ## Records with one field -/

/-- The document is a record of which only one field counts: an object that lists the
field once, among fields whose names are texts, or an array of the field alone. -/
inductive OnlyField (name : String) : Document -> Document -> Prop where
  | object {before after : List (Option String × Document)} {value : Document}
      (others : ∀ field ∈ before ++ after, ∃ other, field.1 = some other ∧ other ≠ name) :
      OnlyField name (.object (before ++ (some name, value) :: after)) value
  | array (value : Document) : OnlyField name (.array [value]) value

/-- A field that is listed once stands at one place of the object. -/
theorem entriesNamed_eq_singleton_iff
    {name : String}
    {fields : List (Option String × Document)}
    {value : Document} :
    entriesNamed name fields = [value] <->
      ∃ before after, fields = before ++ (some name, value) :: after ∧
        ∀ field ∈ before ++ after, field.1 ≠ some name := by
  constructor
  · intro listed
    obtain ⟨⟨found, _⟩, filtered, rfl⟩ := List.map_eq_singleton_iff.mp listed
    obtain ⟨before, after, rfl, notBefore, named, notAfter⟩ :=
      List.filter_eq_cons_iff.mp filtered
    obtain rfl : found = some name := beq_iff_eq.mp named
    refine ⟨before, after, rfl, ?_⟩
    intro field present
    rcases List.mem_append.mp present with isBefore | isAfter
    · simpa using notBefore field isBefore
    · simpa using List.filter_eq_nil_iff.mp notAfter field isAfter
  · rintro ⟨before, after, rfl, others⟩
    have none (fields : List (Option String × Document))
        (unnamed : ∀ field ∈ fields, field.1 ≠ some name) :
        fields.filter (·.1 == some name) = [] :=
      List.filter_eq_nil_iff.mpr fun field present => by simpa using unnamed field present
    obtain ⟨notBefore, notAfter⟩ := List.forall_mem_append.mp others
    simp [entriesNamed, none before notBefore, none after notAfter]

theorem record?_object_eq_single_iff
    {name : String}
    {fields : List (Option String × Document)}
    {value : Document} :
    record? [name] 1 (.object fields) = some [some value] <->
      fields.any (·.1.isNone) = false ∧ entriesNamed name fields = [value] := by
  have unfolded : record? [name] 1 (.object fields) =
      if fields.any (·.1.isNone) || [entriesNamed name fields].any (·.length > 1) then
        none
      else some [(entriesNamed name fields).head?] := rfl
  rw [unfolded]
  generalize entriesNamed name fields = listed
  cases fields.any (·.1.isNone) with
  | true => simp
  | false =>
      match listed with
      | [] => simp
      | [first] => simp
      | first :: second :: others => simp

/-- What is read from a record with one field is its only field that counts. -/
theorem record?_eq_single_iff
    {name : String}
    {document value : Document} :
    record? [name] 1 document = some [some value] <-> OnlyField name document value := by
  cases document with
  | object fields =>
      rw [record?_object_eq_single_iff, entriesNamed_eq_singleton_iff]
      constructor
      · rintro ⟨named, before, after, rfl, others⟩
        refine .object fun field present => ?_
        have inside : field ∈ before ++ (some name, value) :: after := by
          rcases List.mem_append.mp present with isBefore | isAfter
          · exact List.mem_append_left _ isBefore
          · exact List.mem_append_right _ (List.mem_cons_of_mem _ isAfter)
        have isText := List.any_eq_false.mp named field inside
        cases isName : field.1 with
        | none => simp [isName] at isText
        | some other =>
            refine ⟨other, rfl, ?_⟩
            rintro rfl
            exact others field present isName
      · intro single
        cases single with
        | @object before after _ others =>
            refine ⟨List.any_eq_false.mpr fun field present => ?_, before, after, rfl, ?_⟩
            · have places : field = (some name, value) ∨ field ∈ before ++ after := by
                simpa [or_left_comm] using present
              rcases places with rfl | isOther
              · simp
              · obtain ⟨other, isName, _⟩ := others field isOther
                simp [isName]
            · intro field present named
              obtain ⟨other, isOther, different⟩ := others field present
              rw [isOther] at named
              exact different (Option.some.inj named)
  | array items =>
      constructor
      · intro read
        match items with
        | [] => cases read
        | [item] =>
            cases read
            exact .array value
        | item :: next :: others => simp [record?] at read
      · rintro ⟨⟩
        rfl
  | null | bool _ | number _ | string _ =>
      constructor
      · intro read
        cases read
      · rintro ⟨⟩

theorem optional?_eq_some_some_iff
    {α : Type}
    {read : Document -> Option α}
    {field : Option Document}
    {value : α} :
    optional? read field = some (some value) <->
      ∃ document, field = some document ∧ document ≠ .null ∧
        read document = some value := by
  cases field with
  | none => simp [optional?]
  | some document => cases document <;> simp [optional?]

end Json

namespace Companion

variable {σ : Type}

/-! ## Addresses on the machine itself -/

/-- A hosted server is told to use a model at an address that names its own machine. -/
def HostedLoopback (model : Settings.Model) : Prop :=
  model.hosted = true ∧
    ("localhost".toList <:+: model.baseUrl.toList ∨
      "127.0.0.1".toList <:+: model.baseUrl.toList)

/-- Dropping a character at the end loses no occurrence of a mark without it. -/
theorem infix_dropTrailing_iff
    {mark : List Char}
    {c : Char}
    (nonempty : mark ≠ [])
    (absent : c ∉ mark)
    (text : String) :
    mark <:+: (Text.dropTrailing c text).toList <-> mark <:+: text.toList := by
  rw [Text.dropTrailing, String.toList_ofList]
  generalize text.toList = chars
  have parts : (chars.reverse.dropWhile (· == c)).reverse ++
      (chars.reverse.takeWhile (· == c)).reverse = chars := by
    rw [← List.reverse_append, List.takeWhile_append_dropWhile, List.reverse_reverse]
  have dropped : ∀ d ∈ (chars.reverse.takeWhile (· == c)).reverse, d = c := by
    intro d present
    exact beq_iff_eq.mp
      (List.all_eq_true.mp List.all_takeWhile d (List.mem_reverse.mp present))
  generalize (chars.reverse.dropWhile (· == c)).reverse = kept at parts ⊢
  generalize (chars.reverse.takeWhile (· == c)).reverse = tail at parts dropped
  rw [← parts]
  cases tail with
  | nil => rw [List.append_nil]
  | cons d tail =>
      obtain ⟨rfl, others⟩ := List.forall_mem_cons.mp dropped
      rw [Text.infix_append_cons_iff absent, or_iff_left]
      intro occurs
      obtain ⟨first, inMark⟩ := List.exists_mem_of_ne_nil mark nonempty
      exact absent (others first (occurs.subset inMark) ▸ inMark)

theorem isLoopbackInHosted_iff (model : Settings.Model) :
    isLoopbackInHosted model = true <-> HostedLoopback model := by
  unfold isLoopbackInHosted isLoopback HostedLoopback Text.contains baseUrl
  rw [Bool.and_eq_true, Bool.or_eq_true, Text.occursIn_iff_infix, Text.occursIn_iff_infix,
    infix_dropTrailing_iff (by decide) (by decide),
    infix_dropTrailing_iff (by decide) (by decide)]

/-! ## The call -/

/-- The call delivers a conversation to a model: its body is read as JSON with the name
of the model, without a stream, and with the instructions and the messages in order. -/
structure Carries (model : Settings.Model) (messages : List Chat.Message)
    (call : Http.Call) :
    Prop where
  method : call.method = "POST"
  url : call.url = Text.dropTrailing '/' model.baseUrl ++ "/api/chat"
  body : ∃ value items, Json.readBytes? (Text.Utf8.bytes call.body) = some value ∧
    value.field? "model" = some (.string model.name) ∧
    value.field? "stream" = some (.bool false) ∧
    value.field? "messages" = some (.array items) ∧
    items.map Chat.Message.ofJson? = (⟨.system, instructions⟩ :: messages).map some

theorem fits_payload (model : Settings.Model) (messages : List Chat.Message) :
    Json.Fits Json.maxDepth (payload model messages) := by
  intro field present
  simp only [List.mem_cons, List.not_mem_nil, or_false] at present
  rcases present with rfl | rfl | rfl
  · simp [Json.Fits]
  · simp [Json.Fits]
  · intro item listed
    obtain ⟨message, _, rfl⟩ := List.mem_map.mp listed
    simp [Chat.Message.toJson, Json.Fits]

theorem carries_call (model : Settings.Model) (messages : List Chat.Message) :
    Carries model messages (call model messages) where
  method := rfl
  url := rfl
  body := by
    refine ⟨payload model messages, (withInstructions messages).map Chat.Message.toJson,
      Json.readBytes?_compact (fits_payload model messages), ?_, ?_, ?_, ?_⟩
    · simp [payload, Json.field?, Json.lastField?]
    · simp [payload, Json.field?, Json.lastField?]
    · simp [payload, Json.field?, Json.lastField?]
    · rw [List.map_map]
      exact List.map_congr_left fun message _ => Chat.ofJson?_toJson message

/-! ## The answer -/

/-- The document holds a message with a content. -/
def Says (document : Json.Document) (content : String) : Prop :=
  ∃ message, Json.OnlyField "message" document message ∧
    Json.OnlyField "content" message (.string (some content))

theorem text?_eq_some_iff {document : Json.Document} {text : String} :
    document.text? = some text <-> document = .string (some text) := by
  cases document <;> simp [Json.Document.text?]

theorem content?_eq_some_some_iff {document : Json.Document} {content : String} :
    content? document = some (some content) <->
      Json.OnlyField "content" document (.string (some content)) := by
  constructor
  · intro read
    unfold content? at read
    split at read
    · next found =>
        obtain ⟨value, rfl, _, isText⟩ := Json.optional?_eq_some_some_iff.mp read
        obtain rfl := text?_eq_some_iff.mp isText
        exact Json.record?_eq_single_iff.mp found
    · cases read
  · intro single
    rw [content?, Json.record?_eq_single_iff.mpr single]
    rfl

theorem answer?_eq_some_some_iff {document : Json.Document} {content : String} :
    answer? document = some (some content) <-> Says document content := by
  constructor
  · intro read
    unfold answer? at read
    split at read
    · next found =>
        obtain ⟨inner, optional, joined⟩ := Option.map_eq_some_iff.mp read
        obtain rfl := Option.join_eq_some_iff.mp joined
        obtain ⟨message, rfl, _, isContent⟩ := Json.optional?_eq_some_some_iff.mp optional
        exact ⟨message, Json.record?_eq_single_iff.mp found,
          content?_eq_some_some_iff.mp isContent⟩
    · cases read
  · rintro ⟨message, single, inner⟩
    have notNull : message ≠ .null := by
      rintro rfl
      cases inner
    have optional : Json.optional? content? (some message) = some (some (some content)) :=
      Json.optional?_eq_some_some_iff.mpr
        ⟨message, rfl, notNull, content?_eq_some_some_iff.mpr inner⟩
    rw [answer?, Json.record?_eq_single_iff.mpr single]
    simp only [optional, Option.map_some, Option.join_some]

theorem blank_eq_false_iff (text : String) :
    Text.blank text = false <-> ∃ c ∈ text.toList, Text.isBlank c = false := by
  simp [Text.blank]

/-- The result of a call is an answer with success that says something. -/
def Replies (result : Http.Result) (content : String) : Prop :=
  ∃ status body document,
    result = .answer status (some body) ∧
    (200 ≤ status ∧ status < 300) ∧
    Json.parseBytes? body = some document ∧
    Says document content ∧
    ∃ c ∈ content.toList, Text.isBlank c = false

theorem read_eq_ok_iff
    (model : Settings.Model)
    (result : Http.Result)
    (content : String) :
    read model result = .ok content <-> Replies result content := by
  constructor
  · intro isContent
    cases result with
    | failed failure => cases isContent
    | silent => cases isContent
    | answer status body =>
        rw [read] at isContent
        split at isContent
        · next success =>
            split at isContent
            · cases isContent
            · cases isContent
            · next found =>
                split at isContent
                · cases isContent
                · next notBlank =>
                    cases isContent
                    obtain ⟨document, parsed, answered⟩ :=
                      Option.bind_eq_some_iff.mp found
                    obtain ⟨bytes, rfl, isDocument⟩ := Option.bind_eq_some_iff.mp parsed
                    exact ⟨status, bytes, document, rfl,
                      (Http.isSuccess_iff status).mp success, isDocument,
                      answer?_eq_some_some_iff.mp answered,
                      (blank_eq_false_iff content).mp (by simpa using notBlank)⟩
        · cases isContent
  · rintro ⟨status, body, document, rfl, success, parsed, said, notBlank⟩
    have answered : ((some body).bind Json.parseBytes?).bind answer? =
        some (some content) := by
      rw [Option.bind_some, parsed, Option.bind_some, answer?_eq_some_some_iff.mpr said]
    rw [read, if_pos ((Http.isSuccess_iff status).mpr success), answered]
    simp [(blank_eq_false_iff content).mpr notBlank]

/-! ## Asking once -/

variable {network : Http.Network σ} {model : Settings.Model}
  {messages : List Chat.Message}
  {state after : σ} {result : Http.Result}

theorem complete_of_hostedLoopback (loopback : HostedLoopback model) :
    complete network model messages state =
      (.error (.loopbackInHosted (baseUrl model)), state) :=
  if_pos ((isLoopbackInHosted_iff model).mpr loopback)

theorem complete_of_sent
    (remote : ¬ HostedLoopback model)
    (sent : Http.send network (some model.timeout) (call model messages) state =
      (result, after)) :
    complete network model messages state = (read model result, after) := by
  rw [complete, if_neg (mt (isLoopbackInHosted_iff model).mp remote), sent]

/-- The call is answered within a time, with success, and with a message that says
something. -/
def AnsweredInTime (network : Http.Network σ) (limit : Number.Duration) (call : Http.Call)
    (state : σ) (content : String) : Prop :=
  ∃ status body document,
    (network.deliver call state).1.delivery = .answered status (some body) ∧
    (network.deliver call state).1.nanoseconds ≤ limit.inNanoseconds ∧
    (200 ≤ status ∧ status < 300) ∧
    Json.parseBytes? body = some document ∧ Says document content ∧
    ∃ c ∈ content.toList, Text.isBlank c = false

theorem replies_send_iff
    (network : Http.Network σ)
    (limit : Number.Duration)
    (call : Http.Call)
    (state : σ)
    (content : String) :
    Replies (Http.send network (some limit) call state).1 content <->
      network.obstacle? call = none ∧
        AnsweredInTime network limit call state content := by
  constructor
  · rintro ⟨status, body, document, answered, others⟩
    obtain ⟨free, delivered, inTime⟩ := Http.send_eq_answer_iff.mp answered
    exact ⟨free, status, body, document, delivered, inTime limit rfl, others⟩
  · rintro ⟨free, status, body, document, delivered, inTime, others⟩
    refine ⟨status, body, document, Http.send_eq_answer_iff.mpr ⟨free, delivered, ?_⟩,
      others⟩
    intro time isLimit
    cases isLimit
    exact inTime

/-- What asking a model does: the calls that reach the network, and what comes of it. -/
structure Asked (network : Http.Network σ) (model : Settings.Model)
    (messages : List Chat.Message) (state : σ) (calls : List Http.Call)
    (outcome : Except Error String) : Prop where
  none_of_loopback : HostedLoopback model -> calls = []
  at_most_once : calls.length ≤ 1
  sent_iff : calls ≠ [] <-> ¬ HostedLoopback model ∧
    network.accepts (chatUrl model) = true
  carries : ∀ call ∈ calls, Carries model messages call
  ok_iff : ∀ content, outcome = .ok content <->
    ∃ call ∈ calls, AnsweredInTime network model.timeout call state content

/-- Only the address can keep a call from being made, since no key is sent along. -/
theorem obstacle?_call_eq_none_iff (network : Http.Network σ) (model : Settings.Model)
    (messages : List Chat.Message) :
    network.obstacle? (call model messages) = none <->
      network.accepts (chatUrl model) = true := by
  cases accepted : network.accepts (chatUrl model) <;>
    simp [Http.Network.obstacle?, call, Http.Call.post, accepted]

theorem asked_of_hostedLoopback
    (network : Http.Network σ)
    (loopback : HostedLoopback model)
    (error : Error) :
    Asked network model messages state [] (.error error) where
  none_of_loopback := fun _ => rfl
  at_most_once := Nat.zero_le 1
  sent_iff := by simp [loopback]
  carries := List.forall_mem_nil _
  ok_iff := by simp

theorem asked_of_sent
    (remote : ¬ HostedLoopback model)
    (sent : Http.send network (some model.timeout) (call model messages) state =
      (result, after)) :
    Asked network model messages state (Http.reaching network [call model messages])
      (read model result) where
  none_of_loopback := fun loopback => absurd loopback remote
  at_most_once := List.length_filter_le _ _
  sent_iff := by
    rw [← obstacle?_call_eq_none_iff network model messages]
    cases free : network.obstacle? (call model messages) <;>
      simp [Http.reaching, free, remote]
  carries := by
    intro reached present
    obtain ⟨rfl, _⟩ := Http.mem_reaching_singleton_iff.mp present
    exact carries_call model messages
  ok_iff := by
    intro content
    have isResult :
        (Http.send network (some model.timeout) (call model messages) state).1 = result :=
      congrArg Prod.fst sent
    rw [read_eq_ok_iff, ← isResult, replies_send_iff]
    constructor
    · rintro ⟨free, answered⟩
      exact ⟨_, Http.mem_reaching_singleton_iff.mpr ⟨rfl, free⟩, answered⟩
    · rintro ⟨reached, present, answered⟩
      obtain ⟨rfl, free⟩ := Http.mem_reaching_singleton_iff.mp present
      exact ⟨free, answered⟩

theorem Asked.not_blank
    {calls : List Http.Call}
    {outcome : Except Error String}
    (asked : Asked network model messages state calls outcome)
    {content : String}
    (answered : outcome = .ok content) :
    ∃ c ∈ content.toList, Text.isBlank c = false := by
  obtain ⟨_, _, _, _, _, _, _, _, _, _, notBlank⟩ := (asked.ok_iff content).mp answered
  exact notBlank

theorem Asked.no_answer_of_loopback
    {calls : List Http.Call}
    {outcome : Except Error String}
    (asked : Asked network model messages state calls outcome)
    (loopback : HostedLoopback model) :
    outcome.toOption = none := by
  cases outcome with
  | error error => rfl
  | ok content =>
      obtain ⟨call, present, _⟩ := (asked.ok_iff content).mp rfl
      rw [asked.none_of_loopback loopback] at present
      cases present

/-! ## What the chat shows -/

/-- What the chat does with a model that is asked with some calls and gives an outcome:
it refuses without a call what may not be asked, and else makes these calls and goes by
the outcome. -/
structure Heeds (model : Settings.Model) (verdict : Moderation.Verdict)
    (calls : List Http.Call) (outcome : Except Error String) (made : List Http.Call)
    (shown : Chat.Outcome) : Prop where
  refused : verdict.isAllowed = false -> made = [] ∧ shown = .refused verdict
  asked : verdict.isAllowed = true -> made = calls ∧
    shown = Chat.conclude outcome.toOption
  reply_not_blank : ∀ text, shown = .reply text ->
    ∃ c ∈ text.toList, Text.isBlank c = false
  of_loopback : HostedLoopback model ->
    made = [] ∧ (shown = .offline ∨ ∃ verdict, shown = .refused verdict)

theorem eq_of_conclude_eq_reply
    {answer : Option String}
    {text : String}
    (shown : Chat.conclude answer = .reply text) :
    answer = some text := by
  cases answer with
  | none => cases shown
  | some other =>
      rw [Chat.conclude] at shown
      split at shown
      · cases shown
        rfl
      · cases shown

theorem heeds_refused
    {verdict : Moderation.Verdict}
    (refused : verdict.isAllowed = false)
    (calls : List Http.Call)
    (outcome : Except Error String) :
    Heeds model verdict calls outcome [] (.refused verdict) where
  refused := fun _ => ⟨rfl, rfl⟩
  asked := by simp [refused]
  reply_not_blank := by simp
  of_loopback := fun _ => ⟨rfl, .inr ⟨verdict, rfl⟩⟩

theorem Asked.heeds
    {verdict : Moderation.Verdict}
    {calls : List Http.Call}
    {outcome : Except Error String}
    (asked : Asked network model messages state calls outcome)
    (allowed : verdict.isAllowed = true) :
    Heeds model verdict calls outcome calls (Chat.conclude outcome.toOption) where
  refused := by simp [allowed]
  asked := fun _ => ⟨rfl, rfl⟩
  reply_not_blank := by
    intro text shown
    have answered := eq_of_conclude_eq_reply shown
    cases outcome with
    | error error => cases answered
    | ok content =>
        cases answered
        exact asked.not_blank rfl
  of_loopback := by
    intro loopback
    rw [asked.no_answer_of_loopback loopback]
    exact ⟨asked.none_of_loopback loopback, .inl rfl⟩

/-- Whatever the settings, the conversation and the other side are, a model is asked
with at most one call, and with none when a hosted server would have to call its own
machine.  The call carries the instructions and the conversation, and there is an answer
exactly when the call is answered in time and with success by a message that says
something.  The chat asks in this way or refuses without asking.  So every answer that
it shows says something, and a hosted server that would have to call its own machine
only refuses or is offline. -/
theorem complete_asks_at_most_once
    (network : Http.Network σ)
    (model : Settings.Model)
    (messages : List Chat.Message)
    (state : σ) :
    ∃ outcome after calls,
      complete network model messages state = (outcome, after) ∧
      complete (Http.recorded network) model messages (state, []) =
        (outcome, (after, calls)) ∧
      Asked network model messages state calls outcome ∧
      ∀ budget, ∃ shown last made,
        Chat.converse (asModel network model) budget messages state = (shown, last) ∧
        Chat.converse (asModel (Http.recorded network) model) budget messages
          (state, []) =
          (shown, (last, made)) ∧
        Heeds model (Moderation.moderateInput messages budget) calls outcome made
          shown := by
  obtain ⟨outcome, after, calls, completed, recorded, asked⟩ :
      ∃ outcome after calls,
        complete network model messages state = (outcome, after) ∧
        complete (Http.recorded network) model messages (state, []) =
          (outcome, (after, calls)) ∧
        Asked network model messages state calls outcome := by
    by_cases loopback : HostedLoopback model
    · exact ⟨_, _, _, complete_of_hostedLoopback loopback,
        complete_of_hostedLoopback loopback, asked_of_hostedLoopback network loopback _⟩
    · cases sent : Http.send network (some model.timeout) (call model messages) state with
      | mk result after =>
          have sentRecorded := Http.send_recorded sent []
          rw [List.nil_append] at sentRecorded
          exact ⟨read model result, after, Http.reaching network [call model messages],
            complete_of_sent loopback sent, complete_of_sent loopback sentRecorded,
            asked_of_sent loopback sent⟩
  refine ⟨outcome, after, calls, completed, recorded, asked, ?_⟩
  intro budget
  cases allowed : (Moderation.moderateInput messages budget).isAllowed with
  | false =>
      refine ⟨_, state, [], ?_, ?_, heeds_refused allowed calls outcome⟩
      · simp [Chat.converse, allowed]
      · simp [Chat.converse, allowed]
  | true =>
      refine ⟨_, after, calls, ?_, ?_, asked.heeds allowed⟩
      · simp [Chat.converse, allowed, asModel, completed]
      · simp [Chat.converse, allowed, asModel, recorded]

end Companion
end FlemishDesk
