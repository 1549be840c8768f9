import FlemishDesk.Chat.Outcome
import FlemishDesk.Proofs.Json.RoundTrip

/-!
# Conversations as JSON

The names of the roles and the reader of these names are two separate tables, which
agree.  So a message is read back from its JSON form, and the messages of a conversation
are found among values that are no messages.
-/

namespace FlemishDesk
namespace Chat

/-! ## Messages as values -/

theorem Role.name_of_ofName?
    {name : String}
    {role : Role}
    (known : Role.ofName? name = some role) :
    name = role.name := by
  unfold Role.ofName? at known
  split at known
  · next same =>
      cases known
      exact beq_iff_eq.mp same
  · split at known
    · next same =>
        cases known
        exact beq_iff_eq.mp same
    · split at known
      · next same =>
          cases known
          exact beq_iff_eq.mp same
      · cases known

/-- The value is an object with a known role and a content that is a string. -/
def IsMessage (value : Json) : Prop :=
  ∃ (fields : List (String × Json)) (role : Role) (content : String),
    value = .object fields ∧
    Json.lastField? "role" fields = some (.string role.name) ∧
    Json.lastField? "content" fields = some (.string content)

theorem ofJson?_toJson (message : Message) :
    Message.ofJson? message.toJson = some message := by
  simp [Message.ofJson?, Message.toJson, Json.field?, Json.lastField?, Json.string?]

/-- Only objects with a known role and a content that is a string are read as
messages. -/
theorem isMessage_of_ofJson?
    {value : Json}
    {message : Message}
    (read : Message.ofJson? value = some message) :
    IsMessage value := by
  simp only [Message.ofJson?, Option.bind_eq_bind, Option.bind_eq_some_iff] at read
  obtain ⟨roleValue, roleField, name, isName, role, known, contentValue, contentField,
    content, isContent, _⟩ := read
  rw [Json.eq_string_of_string? isName, Role.name_of_ofName? known] at roleField
  rw [Json.eq_string_of_string? isContent] at contentField
  cases value with
  | object fields => exact ⟨fields, role, content, rfl, roleField, contentField⟩
  | null | bool _ | natural _ | negative _ | real _ | string _ | array _ =>
      cases roleField

/-- The values are the JSON forms of the messages, in order, with other values anywhere
between them that are no messages. -/
inductive Interspersed : List Message -> List Json -> Prop where
  | nil : Interspersed [] []
  | message (message : Message) {messages : List Message} {values : List Json}
      (rest : Interspersed messages values) :
      Interspersed (message :: messages) (message.toJson :: values)
  | stray {value : Json} {messages : List Message} {values : List Json}
      (noMessage : ¬ IsMessage value)
      (rest : Interspersed messages values) :
      Interspersed messages (value :: values)

theorem interspersed_toJson (messages : List Message) :
    Interspersed messages (messages.map Message.toJson) := by
  induction messages with
  | nil => exact .nil
  | cons message messages inductionHypothesis =>
      exact .message message inductionHypothesis

/-- The messages are found among other values. -/
theorem Interspersed.normalize_eq
    {messages : List Message}
    {values : List Json}
    (interspersed : Interspersed messages values) :
    normalize values = messages := by
  induction interspersed with
  | nil => rfl
  | @message message messages values _ inductionHypothesis =>
      rw [normalize, List.filterMap_cons_some (ofJson?_toJson message), ← normalize,
        inductionHypothesis]
  | @stray value messages values noMessage _ inductionHypothesis =>
      have unread : Message.ofJson? value = none := by
        cases read : Message.ofJson? value with
        | none => rfl
        | some message => exact absurd (isMessage_of_ofJson? read) noMessage
      rw [normalize, List.filterMap_cons_none unread, ← normalize, inductionHypothesis]

/-- The JSON form of a request with a conversation. -/
def conversationJson (messages : List Message) : Json :=
  .object [("messages", .array (messages.map Message.toJson))]

theorem fits_conversationJson (messages : List Message) :
    Json.Fits Json.maxDepth (conversationJson messages) := by
  intro field present
  obtain rfl := List.mem_singleton.mp present
  intro item listed
  obtain ⟨message, _, rfl⟩ := List.mem_map.mp listed
  simp [Message.toJson, Json.Fits]

/-- The model that also keeps what it is given, in order. -/
def Model.recorded {σ : Type} (model : Model σ) : Model (σ × List (List Message)) :=
  fun messages state =>
    ((model messages state.1).1, (model messages state.1).2, state.2 ++ [messages])

end Chat
end FlemishDesk
