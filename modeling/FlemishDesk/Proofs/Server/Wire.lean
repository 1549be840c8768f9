import FlemishDesk.Proofs.Chat.Conversation
import FlemishDesk.Proofs.Server.Endpoint

/-!
# Conversations on the wire

A conversation is written as JSON, posted to the endpoint, read and normalized, and then
given to the model.  Strings are escaped and read back, and values that are no messages
vanish without a trace.  So the model receives what was written, message by message.  In
the other direction an answer in the dialect is read from the body of the response as
the model gave it.
-/

namespace FlemishDesk
namespace Server

/-! ## To the model -/

/-- A request has one conversation. -/
theorem Reaches.unique
    {limits : Limits}
    {limiter : Admission.Limiter}
    {now : Nat}
    {request : Http.Request}
    {one other : List Chat.Message}
    (reaches : Reaches limits limiter now request one)
    (reachesOther : Reaches limits limiter now request other) :
    one = other := by
  obtain ⟨fields, values, read, found, rfl⟩ := reaches.shape
  obtain ⟨otherFields, otherValues, otherRead, otherFound, rfl⟩ := reachesOther.shape
  obtain rfl : fields = otherFields := by simpa [read] using otherRead
  obtain rfl : values = otherValues := by simpa [found] using otherFound
  rfl

/-- A request that passes every check is answered by the model, which is given its
conversation. -/
theorem handle_of_reaches
    {σ : Type}
    (setup : Setup σ)
    {limiter : Admission.Limiter}
    {now : Nat}
    {request : Http.Request}
    {conversation : List Chat.Message}
    (reaches : Reaches setup.limits limiter now request conversation)
    (state : σ) :
    handle setup now request ⟨limiter, state⟩ =
      ((outcomeResponse (Chat.conclude (setup.model conversation state).1)).withHeaders
          everyOrigin,
        ⟨(limiter.allow (Admission.clientKey request.headers request.peer) now).2,
          (setup.model conversation state).2⟩) := by
  have chat : isChat request = true :=
    (isChat_iff request).mpr ⟨reaches.method, reaches.path⟩
  rcases handle_cases setup now limiter
    chat with ⟨other, reachesOther, answered⟩ | ⟨unreached, _⟩
  · obtain rfl := reaches.unique reachesOther
    exact answered state
  · exact absurd reaches (unreached conversation)

/-- An admitted request to the endpoint whose body is the JSON text of a conversation
that the gate lets pass, within the limits on its size. -/
structure Posts (limits : Limits) (limiter : Admission.Limiter) (now : Nat)
    (request : Http.Request) (messages : List Chat.Message) : Prop where
  method : request.method = "POST"
  path : request.path = "/api/chat"
  /-- The limiter admits the client. -/
  admitted :
    (limiter.allow (Admission.clientKey request.headers request.peer) now).1 = true
  /-- The body is the text of the conversation, without whitespace. -/
  body : request.body = Text.Utf8.bytes (Chat.conversationJson messages).compact
  /-- A length that the request declares is within the limit. -/
  declared : ∀ length, declaredLength? request.headers = some length ->
    length ≤ limits.maxBodyBytes
  /-- The length of the body is within the limit. -/
  size : request.body.length ≤ limits.maxBodyBytes
  /-- The gate lets the conversation pass. -/
  allowed : Moderation.moderateInput messages limits.maxInputChars = .allowed

theorem Posts.reaches
    {limits : Limits}
    {limiter : Admission.Limiter}
    {now : Nat}
    {request : Http.Request}
    {messages : List Chat.Message}
    (posts : Posts limits limiter now request messages) :
    Reaches limits limiter now request messages where
  method := posts.method
  path := posts.path
  admitted := posts.admitted
  declared := posts.declared
  size := posts.size
  allowed := posts.allowed
  shape := by
    refine ⟨[("messages", .array (messages.map Chat.Message.toJson))],
      messages.map Chat.Message.toJson, ?_, ?_, ?_⟩
    · rw [posts.body]
      exact Json.readBytes?_compact (Chat.fits_conversationJson messages)
    · simp [Json.lastField?]
    · exact (Chat.interspersed_toJson messages).normalize_eq.symm

/-! ## Back to the client -/

/-- The body of the response is read as a message of the assistant with this content, of
which nothing was refused. -/
def Shows (response : Http.Response) (content : String) : Prop :=
  ∃ value, Json.readBytes? response.body = some value ∧
    (value.field? "message").bind (Json.field? "content") = some (.string content) ∧
    (value.field? "message").bind (Json.field? "role") = some (.string "assistant") ∧
    value.field? "refused" = some (.bool false)

theorem shows_assistantReply (content : String) :
    Shows ((assistantReply content false).withHeaders everyOrigin) content := by
  refine ⟨_, readBytes?_json (fits_assistantReply content false) everyOrigin, ?_⟩
  simp [Json.field?, Json.lastField?]

theorem conclude_of_target
    {answer : String}
    (inDialect : Language.ofModel answer = .target) :
    Chat.conclude (some answer) = .reply answer := by
  simp [Chat.conclude, Moderation.moderateOutput, inDialect]

/-- Messages survive the way over the wire.  Normalizing the JSON form of a conversation
gives the conversation back, also when values that are no messages are inserted
anywhere.  When the JSON text of a conversation is posted, admitted and let pass, the
model receives exactly this conversation, once, and an answer in the dialect is read
from the body of the response unchanged, as a message of the assistant of which nothing
was refused. -/
theorem conversation_survives_wire (messages : List Chat.Message) :
    Chat.normalize (messages.map Chat.Message.toJson) = messages ∧
    (∀ values, Chat.Interspersed messages values -> Chat.normalize values = messages) ∧
    ∀ {σ : Type} (model : Chat.Model σ) (state : σ) (received : List (List Chat.Message))
      (limits : Limits) (site : Option Site) (limiter : Admission.Limiter) (now : Nat)
      (request : Http.Request),
      Posts limits limiter now request messages ->
      ∃ response next,
        handle ⟨limits, model.recorded, site⟩ now request ⟨limiter, state, received⟩ =
          (response, next) ∧
        next.model.2 = received ++ [messages] ∧
        ∀ answer, (model messages state).1 = some answer ->
          Language.ofModel answer = .target ->
          response.status = 200 ∧ Shows response answer := by
  refine ⟨(Chat.interspersed_toJson messages).normalize_eq,
    fun values interspersed => interspersed.normalize_eq, ?_⟩
  intro σ model state received limits site limiter now request posts
  have handled :=
    handle_of_reaches ⟨limits, model.recorded, site⟩ posts.reaches (state, received)
  refine ⟨_, _, handled, rfl, ?_⟩
  intro answer answered inDialect
  have concluded :
      Chat.conclude (model.recorded messages (state, received)).1 = .reply answer := by
    rw [Chat.Model.recorded, answered, conclude_of_target inDialect]
  rw [concluded]
  exact ⟨rfl, shows_assistantReply answer⟩

/-- A conversation with quotes, a backslash, control characters and a character beyond
the first plane. -/
def escapedConversation : List Chat.Message :=
  [⟨.system, "\"a\\b\"\n\x01\x7f😀"⟩, ⟨.user, "Awel, \t\"leg\" uit"⟩]

/-- A request that posts it. -/
def escapedRequest : Http.Request where
  method := "POST"
  target := Http.Target.ofPath "/api/chat".toList
  headers := [("content-length", "114")]
  body := Text.Utf8.bytes (Chat.conversationJson escapedConversation).compact
  peer := none

theorem posts_escapedRequest :
    Posts ⟨40, 1⟩ (.fresh 1) 0 escapedRequest escapedConversation where
  method := rfl
  path := by decide +kernel
  admitted := by decide +kernel
  body := rfl
  declared := by
    intro length isDeclared
    have declares : declaredLength? escapedRequest.headers = some 114 := by decide +kernel
    obtain rfl := Option.some.inj (declares.symm.trans isDeclared)
    decide +kernel
  size := by decide +kernel
  allowed := by decide +kernel

/-- The conversation is found between a value that is no object and a message of an
unknown role, and it reaches a model whose answer needs escapes as well. -/
theorem conversation_survives_wire_escaped :
    Chat.normalize
      (.null :: .object [("role", .string "tool"), ("content", .string "x")] ::
        escapedConversation.map Chat.Message.toJson) = escapedConversation ∧
    ∃ response next,
      handle ⟨⟨40, 1⟩, Chat.Model.recorded fun _ (calls : Nat) =>
        (some "da \"ni\"\n", calls + 1),
          none⟩ 0 escapedRequest ⟨.fresh 1, 0, []⟩ = (response, next) ∧
      next.model.2 = [escapedConversation] ∧
      response.status = 200 ∧ Shows response "da \"ni\"\n" := by
  obtain ⟨_, found, onWire⟩ := conversation_survives_wire escapedConversation
  refine ⟨found _ (.stray ?_ (.stray ?_ (Chat.interspersed_toJson escapedConversation))),
    ?_⟩
  · rintro ⟨fields, role, content, same, _⟩
    cases same
  · rintro ⟨fields, role, content, same, known, _⟩
    cases same
    cases role <;> simp [Json.lastField?, Chat.Role.name] at known
  · obtain ⟨response, next, handled, receives, answers⟩ :=
      onWire (fun _ (calls : Nat) => (some "da \"ni\"\n", calls + 1)) 0 [] ⟨40, 1⟩ none
        (.fresh 1) 0
        escapedRequest posts_escapedRequest
    have shown := answers "da \"ni\"\n" rfl (by decide +kernel)
    exact ⟨response, next, handled, receives, shown⟩

end Server
end FlemishDesk
