import FlemishDesk.Proofs.Json.RoundTrip
import FlemishDesk.Server.Router

/-!
# What reaches the model

A conversation reaches the model when its request passes every check of the endpoint.
The checks are collected in one record, and a request to the endpoint is one of two
kinds: it reaches the model, which is asked once and whose answer is judged, or it gets
one of a few fixed responses and the model is not asked.  What the model says is shown
only when it is in the dialect; of any other answer only the judgement counts.
-/

namespace FlemishDesk

/-- The answer that a script gives next. -/
def Chat.Script.answer? (script : Chat.Script) : Option String :=
  script.answers.head?.join

namespace Server

/-- A request passes every check on its way to the model, which is given these
messages. -/
structure Reaches (limits : Limits) (limiter : Admission.Limiter) (now : Nat)
    (request : Http.Request) (messages : List Chat.Message) : Prop where
  method : request.method = "POST"
  path : request.path = "/api/chat"
  /-- The limiter admits the client. -/
  admitted :
    (limiter.allow (Admission.clientKey request.headers request.peer) now).1 = true
  /-- A length that the request declares is within the limit. -/
  declared : ∀ length, declaredLength? request.headers = some length ->
    length ≤ limits.maxBodyBytes
  /-- The length of the body is within the limit. -/
  size : request.body.length ≤ limits.maxBodyBytes
  /-- The body is an object with a list of messages, of which the well-formed ones
  count. -/
  shape : ∃ fields values, Json.readBytes? request.body = some (.object fields) ∧
    Json.lastField? "messages" fields = some (.array values) ∧
    messages = Chat.normalize values
  /-- The gate lets the conversation pass. -/
  allowed : Moderation.moderateInput messages limits.maxInputChars = .allowed

/-- The responses of the endpoint that do not show what the model says. -/
def fixedResponses : List Http.Response :=
  [Rejection.rateLimited.response,
    Rejection.tooLarge.response,
    Rejection.notJson.response,
    Rejection.notObject.response,
    Rejection.noMessages.response,
    assistantReply Moderation.Reply.tooLong true,
    assistantReply Moderation.Reply.injection true,
    assistantReply Moderation.Reply.language true,
    .error 503 "AI_OFFLINE" Moderation.Reply.offline].map (·.withHeaders everyOrigin)

/-- The response is a success of which the body says that nothing was refused. -/
def Unrefused (response : Http.Response) : Prop :=
  response.status = 200 ∧
    ∃ value, Json.readBytes? response.body = some value ∧
      value.field? "refused" = some (.bool false)

/-- The content of the message in the body of a response. -/
def contentOf? (response : Http.Response) : Option String :=
  (Json.readBytes? response.body).bind fun value =>
    (value.field? "message").bind fun message =>
      (message.field? "content").bind Json.string?

/-! ## Requests to the endpoint -/

theorem isChat_iff (request : Http.Request) :
    isChat request = true <-> request.method = "POST" ∧ request.path = "/api/chat" := by
  unfold isChat chatPath
  simp

theorem readBytes?_nil : Json.readBytes? [] = none := by
  decide

/-- An empty body, which counts as an empty object, carries no messages. -/
theorem exists_bodyValue?_iff (body : List UInt8) (value : Json) :
    (∃ fields, bodyValue? body = some (.object fields) ∧
        Json.lastField? "messages" fields = some value) <->
      ∃ fields, Json.readBytes? body = some (.object fields) ∧
        Json.lastField? "messages" fields = some value := by
  cases body with
  | nil => simp [bodyValue?, readBytes?_nil, Json.lastField?]
  | cons first rest => rfl

/-- The messages of a request are those of an object within the limits. -/
theorem messages_eq_ok_iff
    (limits : Limits)
    (request : Http.Request)
    (values : List Json) :
    messages limits request = .ok values <->
      (∀ length, declaredLength? request.headers = some length ->
        length ≤ limits.maxBodyBytes) ∧
      request.body.length ≤ limits.maxBodyBytes ∧
      ∃ fields, Json.readBytes? request.body = some (.object fields) ∧
        Json.lastField? "messages" fields = some (.array values) := by
  have declared :
      ((declaredLength? request.headers).any (· > limits.maxBodyBytes)) = false <->
      ∀ length, declaredLength? request.headers = some length ->
        length ≤ limits.maxBodyBytes := by
    cases declaredLength? request.headers <;> simp
  rw [← declared]
  unfold messages
  split
  · rename_i tooLarge
    simp [tooLarge]
  · rename_i withinDeclared
    split
    · rename_i tooLarge
      simp only [reduceCtorEq, false_iff]
      intro conditions
      omega
    · rename_i within
      rw [eq_false_of_ne_true withinDeclared]
      simp only [true_and, Nat.le_of_not_gt within]
      rw [← exists_bodyValue?_iff]
      cases bodyValue? request.body with
      | none => simp
      | some value =>
          cases value with
          | object fields =>
              dsimp only
              split
              · rename_i items found
                simp [found, eq_comm]
              · rename_i notArray
                simp only [reduceCtorEq, false_iff]
                rintro ⟨others, same, found⟩
                obtain rfl : fields = others := by simpa using same
                exact notArray values found
          | null | bool _ | natural _ | negative _ | real _ | string _ | array _ => simp

theorem rejection_mem_fixedResponses (rejection : Rejection) :
    rejection.response.withHeaders everyOrigin ∈ fixedResponses := by
  refine List.mem_map_of_mem ?_
  cases rejection <;> simp

theorem refusal_mem_fixedResponses
    {verdict : Moderation.Verdict}
    (notRateLimited : verdict ≠ .rateLimited) :
    (assistantReply verdict.refusal true).withHeaders everyOrigin ∈ fixedResponses := by
  refine List.mem_map_of_mem ?_
  cases verdict with
  | rateLimited => exact absurd rfl notRateLimited
  | allowed | tooLong | injectionRefused | forbiddenLanguageRefused
  | nonTargetLanguageRefused =>
      simp [Moderation.Verdict.refusal, Moderation.Verdict.reply?]

theorem moderateInput_ne_rateLimited (messages : List Chat.Message) (budget : Nat) :
    Moderation.moderateInput messages budget ≠ .rateLimited := by
  unfold Moderation.moderateInput Moderation.moderateText
  repeat' split
  all_goals simp

/-- The checks on the way to the model, in the order in which they are made. -/
theorem reaches_iff
    {limits : Limits}
    {limiter : Admission.Limiter}
    {now : Nat}
    {request : Http.Request}
    {conversation : List Chat.Message}
    (chat : isChat request = true) :
    Reaches limits limiter now request conversation <->
      (limiter.allow (Admission.clientKey request.headers request.peer) now).1 = true ∧
      ∃ values, messages limits request = .ok values ∧
        conversation = Chat.normalize values ∧
        Moderation.moderateInput conversation limits.maxInputChars = .allowed := by
  constructor
  · rintro ⟨_, _, admitted, declared, size, ⟨fields, values, read, found, normal⟩,
      allowed⟩
    refine ⟨admitted, values, ?_, normal, allowed⟩
    exact (messages_eq_ok_iff limits request values).mpr
      ⟨declared, size, fields, read, found⟩
  · rintro ⟨admitted, values, carried, normal, allowed⟩
    obtain ⟨post, path⟩ := (isChat_iff request).mp chat
    obtain ⟨declared, size, fields, read, found⟩ :=
      (messages_eq_ok_iff limits request values).mp carried
    exact ⟨post, path, admitted, declared, size, ⟨fields, values, read, found, normal⟩,
      allowed⟩

section Requests

variable {σ : Type} {setup : Setup σ} {now : Nat} {request : Http.Request}
  {limiter : Admission.Limiter}

/-- A request to the endpoint is answered there. -/
theorem handle_of_isChat (chat : isChat request = true) (state : σ) :
    handle setup now request ⟨limiter, state⟩ =
      ((answerChat setup.limits setup.model now request limiter state).1.withHeaders
      everyOrigin,
        ⟨(answerChat setup.limits setup.model now request limiter state).2.1,
          (answerChat setup.limits setup.model now request limiter state).2.2⟩) := by
  have post : request.method = "POST" := ((isChat_iff request).mp chat).1
  unfold handle route
  simp [chat, post]

/-- A request that is not for the endpoint is answered without a look at the state of
the server, which stays as it is. -/
theorem handle_of_not_isChat
    (setup : Setup σ)
    (now : Nat)
    (other : isChat request = false) :
    ∃ response, ∀ state, handle setup now request state = (response, state) := by
  unfold handle route
  simp only [other, Bool.false_eq_true, if_false]
  split
  · exact ⟨_, fun _ => rfl⟩
  · exact ⟨_, fun _ => rfl⟩

theorem answerChat_of_denied
    (denied :
      (limiter.allow (Admission.clientKey request.headers request.peer) now).1 = false)
    (limits : Limits)
    (model : Chat.Model σ)
    (state : σ) :
    answerChat limits model now request limiter state =
      (Rejection.rateLimited.response,
        (limiter.allow (Admission.clientKey request.headers request.peer) now).2,
        state) := by
  unfold answerChat
  simp [denied]

theorem answerChat_of_admitted
    (admitted :
      (limiter.allow (Admission.clientKey request.headers request.peer) now).1 = true)
    (limits : Limits)
    (model : Chat.Model σ)
    (state : σ) :
    answerChat limits model now request limiter state =
      ((answerAdmitted limits model request state).1,
        (limiter.allow (Admission.clientKey request.headers request.peer) now).2,
        (answerAdmitted limits model request state).2) := by
  unfold answerChat
  simp [admitted]

/-- A request that the limiter has let pass reaches the model, which is asked once, or
gets one of the fixed responses and leaves the model alone. -/
theorem answerAdmitted_cases
    (limits : Limits)
    (model : Chat.Model σ)
    (request : Http.Request) :
    (∃ values, messages limits request = .ok values ∧
      Moderation.moderateInput (Chat.normalize values) limits.maxInputChars = .allowed ∧
      ∀ state, answerAdmitted limits model request state =
        (outcomeResponse (Chat.conclude (model (Chat.normalize values) state).1),
          (model (Chat.normalize values) state).2)) ∨
    ((∀ values, messages limits request = .ok values ->
        Moderation.moderateInput (Chat.normalize values) limits.maxInputChars ≠
          .allowed) ∧
      ∃ response, response.withHeaders everyOrigin ∈ fixedResponses ∧
        ∀ state, answerAdmitted limits model request state = (response, state)) := by
  cases carried : messages limits request with
  | error rejection =>
      refine .inr ⟨nofun, rejection.response, rejection_mem_fixedResponses rejection, ?_⟩
      intro state
      unfold answerAdmitted
      rw [carried]
  | ok values =>
      cases allowed : (Moderation.moderateInput (Chat.normalize values)
          limits.maxInputChars).isAllowed with
      | true =>
          refine .inl ⟨values, rfl, (Moderation.Verdict.isAllowed_iff _).mp allowed, ?_⟩
          intro state
          unfold answerAdmitted Chat.converse
          simp [carried, allowed]
      | false =>
          have refused : Moderation.moderateInput (Chat.normalize values)
              limits.maxInputChars ≠ .allowed := by
            intro passed
            rw [(Moderation.Verdict.isAllowed_iff _).mpr passed] at allowed
            exact absurd allowed (by simp)
          refine .inr ⟨?_, _, refusal_mem_fixedResponses
            (moderateInput_ne_rateLimited (Chat.normalize values) limits.maxInputChars),
            ?_⟩
          · intro others same
            obtain rfl := Except.ok.inj same
            exact refused
          · intro state
            unfold answerAdmitted Chat.converse
            simp [carried, allowed, outcomeResponse]

/-- A request to the endpoint reaches the model, which is asked once, or gets one of the
fixed responses and leaves the model alone. -/
theorem handle_cases
    (setup : Setup σ)
    (now : Nat)
    (limiter : Admission.Limiter)
    (chat : isChat request = true) :
    (∃ conversation, Reaches setup.limits limiter now request conversation ∧
      ∀ state, handle setup now request ⟨limiter, state⟩ =
        ((outcomeResponse (Chat.conclude (setup.model conversation state).1)).withHeaders
            everyOrigin,
          ⟨(limiter.allow (Admission.clientKey request.headers request.peer) now).2,
            (setup.model conversation state).2⟩)) ∨
    ((∀ conversation, ¬ Reaches setup.limits limiter now request conversation) ∧
      ∃ response ∈ fixedResponses, ∀ state, handle setup now request ⟨limiter, state⟩ =
        (response,
          ⟨(limiter.allow (Admission.clientKey request.headers request.peer) now).2,
            state⟩)) := by
  cases admitted :
    (limiter.allow (Admission.clientKey request.headers request.peer) now).1 with
  | false =>
      refine .inr ⟨?_, _, rejection_mem_fixedResponses .rateLimited, ?_⟩
      · intro conversation reaches
        exact absurd reaches.admitted (by simp [admitted])
      · intro state
        rw [handle_of_isChat chat, answerChat_of_denied admitted]
  | true =>
      rcases answerAdmitted_cases setup.limits setup.model request with
        ⟨values, carried, allowed, answer⟩ | ⟨refused, response, fixed, answer⟩
      · refine .inl ⟨Chat.normalize values, ?_, ?_⟩
        · exact (reaches_iff chat).mpr ⟨admitted, values, carried, rfl, allowed⟩
        · intro state
          rw [handle_of_isChat chat, answerChat_of_admitted admitted, answer]
      · refine .inr ⟨?_, _, fixed, ?_⟩
        · intro conversation reaches
          obtain ⟨_, values, carried, rfl, allowed⟩ := (reaches_iff chat).mp reaches
          exact refused values carried allowed
        · intro state
          rw [handle_of_isChat chat, answerChat_of_admitted admitted, answer]

end Requests

/-! ## Responses -/

/-- The judgement of the model's answer decides between the answer and a fixed
response. -/
theorem outcomeResponse_conclude (answer : Option String) :
    (∃ text, answer = some text ∧ Language.ofModel text = .target ∧
      outcomeResponse (Chat.conclude answer) = assistantReply text false) ∨
    ((∀ text, answer = some text -> Language.ofModel text ≠ .target) ∧
      (outcomeResponse (Chat.conclude answer)).withHeaders everyOrigin ∈ fixedResponses ∧
      ∀ other, other.map Language.ofModel = answer.map Language.ofModel ->
        outcomeResponse (Chat.conclude other) =
          outcomeResponse (Chat.conclude answer)) := by
  cases answer with
  | none =>
      refine .inr ⟨nofun, List.mem_map_of_mem ?_, ?_⟩
      · simp [Chat.conclude, outcomeResponse]
      · intro other same
        obtain rfl : other = none := by simpa using same
        rfl
  | some text =>
      cases judged : Language.ofModel text with
      | target =>
          refine .inl ⟨text, rfl, judged, ?_⟩
          simp [Chat.conclude, Moderation.moderateOutput, judged, outcomeResponse]
      | other =>
          have refused (words : String) (judged : Language.ofModel words = .other) :
              outcomeResponse (Chat.conclude (some words)) =
                assistantReply Moderation.Reply.language true := by
            simp [Chat.conclude, Moderation.moderateOutput, judged, outcomeResponse,
              Moderation.Verdict.isAllowed, Moderation.Verdict.refusal,
              Moderation.Verdict.reply?]
          right
          rw [refused text judged]
          refine ⟨?_, List.mem_map_of_mem (by simp), ?_⟩
          · intro words same
            obtain rfl := Option.some.inj same
            simp [judged]
          · intro other same
            cases other with
            | none => simp at same
            | some words => exact refused words (by simpa [judged] using same)

/-- A response with a JSON body is read back. -/
theorem readBytes?_json
    {status : Nat}
    {value : Json}
    (fits : Json.Fits Json.maxDepth value)
    (headers : Http.Headers) :
    Json.readBytes? ((Http.Response.json status value).withHeaders headers).body =
      some value :=
  Json.readBytes?_compact fits

theorem fits_assistantReply (content : String) (refused : Bool) :
    Json.Fits Json.maxDepth (.object
      [("message", .object [("content", .string content), ("role", .string "assistant")]),
        ("refused", .bool refused)]) := by
  simp [Json.maxDepth, Json.Fits]

theorem unrefused_assistantReply_iff (content : String) (refused : Bool) :
    Unrefused ((assistantReply content refused).withHeaders everyOrigin) <->
      refused = false := by
  unfold Unrefused assistantReply
  rw [readBytes?_json (fits_assistantReply content refused)]
  simp [Http.Response.json, Http.Response.withHeaders, Json.field?, Json.lastField?]

theorem contentOf?_assistantReply (content : String) (refused : Bool) :
    contentOf? ((assistantReply content refused).withHeaders everyOrigin) =
      some content := by
  unfold contentOf? assistantReply
  rw [readBytes?_json (fits_assistantReply content refused)]
  simp [Json.field?, Json.lastField?, Json.string?]

@[simp] theorem status_withHeaders (response : Http.Response) (headers : Http.Headers) :
    (response.withHeaders headers).status = response.status :=
  rfl

@[simp] theorem status_error (status : Nat) (code message : String) :
    (Http.Response.error status code message).status = status :=
  rfl

theorem not_unrefused_of_status
    {response : Http.Response}
    (failure : response.status ≠ 200) :
    ¬ Unrefused response :=
  fun unrefused => failure unrefused.1

theorem not_unrefused_of_body_eq_nil
    {response : Http.Response}
    (empty : response.body = []) :
    ¬ Unrefused response := by
  rintro ⟨_, value, read, _⟩
  rw [empty, readBytes?_nil] at read
  exact absurd read (by simp)

/-- None of the fixed responses is an answer. -/
theorem not_unrefused_of_mem_fixedResponses
    {response : Http.Response}
    (fixed : response ∈ fixedResponses) :
    ¬ Unrefused response := by
  have notSuccess (rejection : Rejection) :
      ¬ Unrefused (rejection.response.withHeaders everyOrigin) := by
    apply not_unrefused_of_status
    cases rejection <;> simp [Rejection.response]
  obtain ⟨plain, member, rfl⟩ := List.mem_map.mp fixed
  simp only [List.mem_cons, List.not_mem_nil, or_false] at member
  rcases member with rfl | rfl | rfl | rfl | rfl | rfl | rfl | rfl | rfl
  · exact notSuccess .rateLimited
  · exact notSuccess .tooLarge
  · exact notSuccess .notJson
  · exact notSuccess .notObject
  · exact notSuccess .noMessages
  · simp [unrefused_assistantReply_iff]
  · simp [unrefused_assistantReply_iff]
  · simp [unrefused_assistantReply_iff]
  · exact not_unrefused_of_status (by simp)

/-- Without a site, no response to a request for anything but the endpoint is an
answer. -/
theorem not_unrefused_answerOther (request : Http.Request) (headers : Http.Headers) :
    ¬ Unrefused ((answerOther none request).withHeaders headers) := by
  unfold answerOther
  split
  · exact not_unrefused_of_status (by simp)
  · split
    · split
      · rintro ⟨_, value, read, unrefused⟩
        rw [readBytes?_json (by simp [Json.maxDepth, Json.Fits])] at read
        obtain rfl := Option.some.inj read
        simp [Json.field?, Json.lastField?] at unrefused
      · exact not_unrefused_of_status (by simp [Http.Response.empty])
    · exact not_unrefused_of_status (by simp)

theorem not_unrefused_of_not_isChat
    {σ : Type}
    {limits : Limits}
    {model : Chat.Model σ}
    {now : Nat}
    {request : Http.Request}
    (other : isChat request = false)
    (state : State σ) :
    ¬ Unrefused (handle ⟨limits, model, none⟩ now request state).1 := by
  unfold handle route
  simp only [other]
  split
  · exact not_unrefused_of_body_eq_nil rfl
  · dsimp only
    split
    · exact not_unrefused_of_body_eq_nil rfl
    · exact not_unrefused_answerOther request everyOrigin

/-! ## Runs of the server -/

section Runs

variable {σ : Type}

/-- The state of the server after requests that arrive one after another. -/
def stateAfter (setup : Setup σ) (state : State σ)
    (arrivals : List (Nat × Http.Request)) :
    State σ :=
  arrivals.foldl (fun state arrival => (handle setup arrival.1 arrival.2 state).2) state

theorem length_serve
    (setup : Setup σ)
    (state : State σ)
    (arrivals : List (Nat × Http.Request)) :
    (serve setup state arrivals).length = arrivals.length := by
  induction arrivals generalizing state with
  | nil => rfl
  | cons arrival arrivals inductionHypothesis =>
      exact congrArg Nat.succ (inductionHypothesis _)

theorem serve_append
    (setup : Setup σ)
    (state : State σ)
    (earlier later : List (Nat × Http.Request)) :
    serve setup state (earlier ++ later) =
      serve setup state earlier ++
        serve setup (stateAfter setup state earlier) later := by
  induction earlier generalizing state with
  | nil => rfl
  | cons arrival earlier inductionHypothesis =>
      exact congrArg (List.cons _) (inductionHypothesis _)

/-- A request is handled in the state that the earlier ones have left. -/
theorem getElem?_serve
    (setup : Setup σ)
    (state : State σ)
    (earlier later : List (Nat × Http.Request))
    (now : Nat)
    (request : Http.Request) :
    (serve setup state (earlier ++ (now, request) :: later))[earlier.length]? =
      some ((handle setup now request (stateAfter setup state earlier)).1,
        (handle setup now request (stateAfter setup state earlier)).2) := by
  rw [serve_append, List.getElem?_append_right (length_serve setup state earlier).le,
    length_serve, Nat.sub_self]
  rfl

end Runs

/-- Two states that differ only in what the model says, and not in how it is judged. -/
structure Alike (one other : State Chat.Script) : Prop where
  limiter : other.limiter = one.limiter
  judgements : other.model.answers.map (Option.map Language.ofModel) =
    one.model.answers.map (Option.map Language.ofModel)

theorem Alike.answer?
    {one other : State Chat.Script}
    (alike : Alike one other) :
    other.model.answer?.map Language.ofModel =
      one.model.answer?.map Language.ofModel := by
  have judged (script : Chat.Script) : script.answer?.map Language.ofModel =
      (script.answers.map (Option.map Language.ofModel)).head?.join := by
    unfold Chat.Script.answer?
    cases script.answers <;> rfl
  rw [judged, judged, alike.judgements]

/-- A server with a model that answers from a script. -/
def Setup.scripted (limits : Limits) (site : Option Site) : Setup Chat.Script :=
  ⟨limits, Chat.scripted, site⟩

section Scripted

variable {limits : Limits} {site : Option Site}

/-- Alike states stay alike, and get the same response unless it is an answer. -/
theorem Alike.handle
    {one other : State Chat.Script}
    (alike : Alike one other)
    (now : Nat)
    (request : Http.Request) :
    Alike (Server.handle (.scripted limits site) now request one).2
        (Server.handle (.scripted limits site) now request other).2 ∧
      (¬ Unrefused (Server.handle (.scripted limits site) now request one).1 ->
        (Server.handle (.scripted limits site) now request other).1 =
          (Server.handle (.scripted limits site) now request one).1) := by
  obtain ⟨_, script⟩ := one
  obtain ⟨limiter, otherScript⟩ := other
  obtain rfl := alike.limiter
  cases chat : isChat request with
  | false =>
      obtain ⟨response, answered⟩ :=
        handle_of_not_isChat (Setup.scripted limits site) now chat
      rw [answered, answered]
      exact ⟨alike, fun _ => rfl⟩
  | true =>
      rcases handle_cases (Setup.scripted limits site) now limiter chat with
        ⟨conversation, _, answered⟩ | ⟨_, response, _, answered⟩
      · rw [answered, answered]
        refine ⟨⟨rfl, ?_⟩, ?_⟩
        · have tails := congrArg List.tail alike.judgements
          rw [← List.map_tail, ← List.map_tail] at tails
          exact tails
        · intro refused
          rcases outcomeResponse_conclude
            script.answer? with ⟨text, _, _, shown⟩ | ⟨_, _, same⟩
          · refine absurd ?_ refused
            exact shown ▸ (unrefused_assistantReply_iff text false).mpr rfl
          · exact congrArg (Http.Response.withHeaders · everyOrigin)
              (same _ alike.answer?)
      · rw [answered, answered]
        exact ⟨⟨rfl, alike.judgements⟩, fun _ => rfl⟩

theorem Alike.stateAfter
    {one other : State Chat.Script}
    (alike : Alike one other)
    (arrivals : List (Nat × Http.Request)) :
    Alike (Server.stateAfter (.scripted limits site) one arrivals)
      (Server.stateAfter (.scripted limits site) other arrivals) := by
  induction arrivals generalizing one other with
  | nil => exact alike
  | cons arrival arrivals inductionHypothesis =>
      exact inductionHypothesis (alike.handle arrival.1 arrival.2).1

/-! ## The endpoint as a whole -/

/-- What handling a request does in a state of the server. -/
structure Handled (limits : Limits) (site : Option Site) (before : State Chat.Script)
    (now : Nat) (request : Http.Request) (response : Http.Response)
    (next : State Chat.Script) : Prop where
  /-- The model is given the conversation of a request that passes every check, and it
  is not called for any other request. -/
  called : (∃ conversation, Reaches limits before.limiter now request conversation ∧
      next.model.calls = conversation :: before.model.calls) ∨
    ((∀ conversation, ¬ Reaches limits before.limiter now request conversation) ∧
      next.model.calls = before.model.calls)
  /-- A response that refuses nothing shows the answer of the model, which is in the
  dialect. -/
  replied : isChat request = true ∨ site = none -> Unrefused response ->
    ∃ conversation answer, Reaches limits before.limiter now request conversation ∧
      before.model.answer? = some answer ∧ Language.ofModel answer = .target ∧
      contentOf? response = some answer
  /-- An answer in the dialect is shown. -/
  shown : ∀ conversation answer, Reaches limits before.limiter now request conversation ->
    before.model.answer? = some answer -> Language.ofModel answer = .target ->
    Unrefused response ∧ contentOf? response = some answer
  /-- Every other response of the endpoint is one of the fixed ones. -/
  fixed : isChat request = true -> ¬ Unrefused response -> response ∈ fixedResponses

theorem handled_of_not_isChat
    {request : Http.Request}
    (other : isChat request = false)
    (before : State Chat.Script)
    (now : Nat) :
    Handled limits site before now request
      (handle (.scripted limits site) now request before).1
      (handle (.scripted limits site) now request before).2 := by
  have unreached (conversation : List Chat.Message) :
      ¬ Reaches limits before.limiter now request conversation := by
    intro reaches
    have chat := (isChat_iff request).mpr ⟨reaches.method, reaches.path⟩
    exact absurd chat (by simp [other])
  obtain ⟨response, answered⟩ :=
    handle_of_not_isChat (Setup.scripted limits site) now other
  refine ⟨.inr ⟨unreached, by rw [answered]⟩, ?_, ?_, ?_⟩
  · rintro (chat | rfl) unrefused
    · exact absurd chat (by simp [other])
    · exact absurd unrefused (not_unrefused_of_not_isChat other before)
  · intro conversation answer reaches
    exact absurd reaches (unreached conversation)
  · intro chat
    exact absurd chat (by simp [other])

theorem handled_of_isChat
    {request : Http.Request}
    (chat : isChat request = true)
    (before : State Chat.Script)
    (now : Nat) :
    Handled limits site before now request
      (handle (.scripted limits site) now request before).1
      (handle (.scripted limits site) now request before).2 := by
  obtain ⟨limiter, script⟩ := before
  rcases handle_cases (Setup.scripted limits site) now limiter chat with
    ⟨conversation, reaches, answered⟩ | ⟨unreached, response, fixed, answered⟩
  · rw [answered]
    rcases outcomeResponse_conclude script.answer? with
      ⟨text, answer, judged, shown⟩ | ⟨notShown, fixed, _⟩
    · have unrefused :
          Unrefused ((outcomeResponse (Chat.conclude script.answer?)).withHeaders
          everyOrigin) := by
        rw [shown]
        exact (unrefused_assistantReply_iff text false).mpr rfl
      have content :
          contentOf? ((outcomeResponse (Chat.conclude script.answer?)).withHeaders
          everyOrigin) = some text := by
        rw [shown]
        exact contentOf?_assistantReply text false
      refine ⟨.inl ⟨conversation, reaches, rfl⟩, ?_, ?_, ?_⟩
      · intro _ _
        exact ⟨conversation, text, reaches, answer, judged, content⟩
      · intro _ other _ same _
        exact ⟨unrefused, content.trans (answer.symm.trans same)⟩
      · intro _ refused
        exact absurd unrefused refused
    · refine ⟨.inl ⟨conversation, reaches, rfl⟩, ?_, ?_, fun _ _ => fixed⟩
      · intro _ unrefused
        exact absurd unrefused (not_unrefused_of_mem_fixedResponses fixed)
      · intro _ answer _ same judged
        exact absurd judged (notShown answer same)
  · rw [answered]
    refine ⟨.inr ⟨unreached, rfl⟩, ?_, ?_, fun _ _ => fixed⟩
    · intro _ unrefused
      exact absurd unrefused (not_unrefused_of_mem_fixedResponses fixed)
    · intro other _ reaches
      exact absurd reaches (unreached other)

/-- Requests that arrive one after another are handled one by one.  The model is called
for a request exactly when the request passes every check, and then once; its answer is
shown only when it is in the dialect, and otherwise the response is one of the fixed
ones and stays the same when the model says something else that is judged alike. -/
theorem serve_calls_model_for_checked_requests
    (limits : Limits)
    (site : Option Site)
    (answers : List (Option String))
    (earlier later : List (Nat × Http.Request))
    (now : Nat)
    (request : Http.Request) :
    ∃ response next,
      (serve (.scripted limits site) ((Setup.scripted limits site).start ⟨answers, []⟩)
          (earlier ++ (now, request) :: later))[earlier.length]? = some (response, next) ∧
      Handled limits site
        (stateAfter (.scripted limits site)
          ((Setup.scripted limits site).start ⟨answers, []⟩) earlier)
        now request response next ∧
      ∀ others : List (Option String),
        others.map (Option.map Language.ofModel) =
          answers.map (Option.map Language.ofModel) ->
        ¬ Unrefused response ->
        ∃ otherNext,
          (serve (.scripted limits site) ((Setup.scripted limits site).start ⟨others, []⟩)
              (earlier ++ (now, request) :: later))[earlier.length]? =
            some (response, otherNext) := by
  refine ⟨_, _, getElem?_serve _ _ earlier later now request, ?_, ?_⟩
  · cases chat : isChat request with
    | false => exact handled_of_not_isChat chat _ now
    | true => exact handled_of_isChat chat _ now
  · intro others judgedAlike refused
    have alike : Alike ((Setup.scripted limits site).start ⟨answers, []⟩)
        ((Setup.scripted limits site).start ⟨others, []⟩) := ⟨rfl, judgedAlike⟩
    have same := ((alike.stateAfter earlier).handle now request).2 refused
    refine ⟨(handle (.scripted limits site) now request
      (stateAfter (.scripted limits site)
        ((Setup.scripted limits site).start ⟨others, []⟩) earlier)).2, ?_⟩
    rw [getElem?_serve, same]

/-- A conversation in the dialect reaches the model, whose answer is shown, and a second
one comes too soon. -/
example :
    let conversation : Json :=
      .object [("messages", .array [(Chat.Message.ofUser "ni").toJson])]
    let request : Http.Request :=
      { method := "POST"
        target := Http.Target.ofPath "/api/chat".toList
        headers := []
        body := Text.Utf8.bytes conversation.compact
        peer := none }
    let served := serve (.scripted ⟨10, 1⟩ none)
      ((Setup.scripted ⟨10, 1⟩ none).start ⟨[some "da ni"], []⟩)
        [(0, request), (1, request)]
    served.map
      (fun result => (result.1.status, contentOf? result.1, result.2.model.calls)) =
      [(200, some "da ni", [[.ofUser "ni"]]), (429, none, [[.ofUser "ni"]])] := by
  decide +kernel

end Scripted

end Server
end FlemishDesk
