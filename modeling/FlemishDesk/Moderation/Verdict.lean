/-!
# Verdicts and their fixed replies

A verdict says whether a conversation may reach the model, and if not, why.  The
reply to a refused request is fixed by the verdict.
-/

namespace FlemishDesk
namespace Moderation

namespace Reply

/-- The reply to a text that is not in the dialect. -/
def language : String :=
  "Awel, nee: ik klap hier enkel Plat Vlaams. Probeer ’t ne keer in ’t Vlaams."

/-- The reply to an attempt to override the instructions. -/
def injection : String :=
  "Awel, nee: stop me da foefelen. Zeg ’t gewoon in ’t Vlaams en zonder trukken."

/-- The reply to a conversation over the character budget. -/
def tooLong : String :=
  "Amai, da’s nen epistel. Maak ’t wat korter, of splitst ’t in stukskes."

/-- The reply to a request over the byte limit. -/
def tooLarge : String := "Da is te veel ineens, jong."

/-- The reply to a client that has used up its requests. -/
def rateLimited : String :=
  "Rustig, maat. Ge zit aan de limiet. Wacht efkes en probeer opnieuw."

/-- The reply when the model gives no answer. -/
def offline : String :=
  "AI is offline. Op ’t domein moogt `OLLAMA_BASE_URL` ni op `localhost` staan: " ++
    "zet in Vercel env `OLLAMA_BASE_URL` + `OLLAMA_MODEL` naar uwe Ollama server."

end Reply

/-- The outcome of the checks on a conversation. -/
inductive Verdict where
  | allowed
  | rateLimited
  | tooLong
  | injectionRefused
  | forbiddenLanguageRefused
  | nonTargetLanguageRefused
deriving DecidableEq, Repr

namespace Verdict

/-- The verdicts, in the order of their declaration. -/
def all : List Verdict :=
  [.allowed, .rateLimited, .tooLong, .injectionRefused, .forbiddenLanguageRefused,
   .nonTargetLanguageRefused]

/-- The name under which a verdict is reported. -/
def name : Verdict -> String
  | .allowed => "Allowed"
  | .rateLimited => "RateLimited"
  | .tooLong => "TooLong"
  | .injectionRefused => "InjectionRefused"
  | .forbiddenLanguageRefused => "ForbiddenLanguageRefused"
  | .nonTargetLanguageRefused => "NonTargetLanguageRefused"

/-- The verdict reported under a name. -/
def ofName? (name : String) : Option Verdict :=
  all.find? (·.name == name)

/-- The verdict lets a conversation pass. -/
def isAllowed (verdict : Verdict) : Bool :=
  verdict == .allowed

/-- The fixed reply to a verdict that refuses. -/
def reply? : Verdict -> Option String
  | .allowed => none
  | .rateLimited => some Reply.rateLimited
  | .tooLong => some Reply.tooLong
  | .injectionRefused => some Reply.injection
  | .forbiddenLanguageRefused => some Reply.language
  | .nonTargetLanguageRefused => some Reply.language

/-- The text shown for a verdict that refuses. -/
def refusal (verdict : Verdict) : String :=
  verdict.reply?.getD Reply.language

@[simp]
theorem isAllowed_iff (verdict : Verdict) :
    verdict.isAllowed = true ↔ verdict = .allowed := by
  simp [isAllowed]

end Verdict
end Moderation
end FlemishDesk
