import FlemishDesk.Moderation.Gate

/-!
# Answering a conversation

A conversation that passes the gate goes to the model once.  The answer of the
model is shown only if it is in the dialect.  A model is a function on its own
state, so that the calls it gets can be observed: it takes the messages and gives
an answer, or none when it fails.
-/

namespace FlemishDesk
namespace Chat

/-- A model with internal state: it answers a conversation or fails. -/
abbrev Model (σ : Type) := List Message -> σ -> Option String × σ

/-- What the client gets. -/
inductive Outcome where
  /-- The answer of the model, which passed every check. -/
  | reply (text : String)
  /-- A check refused the conversation or the answer. -/
  | refused (verdict : Moderation.Verdict)
  /-- The model gave no answer. -/
  | offline
deriving DecidableEq, Repr

/-- The outcome for what the model gave back. -/
def conclude : Option String -> Outcome
  | none => .offline
  | some answer =>
      let verdict := Moderation.moderateOutput answer
      if verdict.isAllowed then .reply answer else .refused verdict

/-- Check a conversation, ask the model if it may be asked, and check the answer. -/
def converse {σ : Type} (model : Model σ) (budget : Nat) (messages : List Message)
    (state : σ) : Outcome × σ :=
  let verdict := Moderation.moderateInput messages budget
  if verdict.isAllowed then
    let (answer, state) := model messages state
    (conclude answer, state)
  else
    (.refused verdict, state)

/-- The state of a model that answers from a list of prepared answers. -/
structure Script where
  /-- The answers that are left; `none` is a failure. -/
  answers : List (Option String)
  /-- The conversations that the model was given, the latest first. -/
  calls : List (List Message)
deriving DecidableEq, Repr

/-- The model that gives the prepared answers in order and fails when none is
left. -/
def scripted : Model Script := fun messages script =>
  (script.answers.head?.join, ⟨script.answers.tail, messages :: script.calls⟩)

end Chat
end FlemishDesk
