import FlemishDesk.Language.Lexicon
import FlemishDesk.Language.Token

/-!
# Which language a text is in

Words are counted against the four word lists.  A text is foreign when another
language has at least two hits and more than the dialect, or when the dialect has
no hit and another language has one.  A text without any word is never foreign.
-/

namespace FlemishDesk
namespace Language

/-- The verdict on the language of a text. -/
inductive Kind where
  /-- The dialect. -/
  | target
  /-- Some other language. -/
  | other
deriving DecidableEq, Repr

/-- The side of the model from which a text comes. -/
inductive Direction where
  /-- Text of a user. -/
  | inbound
  /-- Text of the model. -/
  | outbound
deriving DecidableEq, Repr

/-- The number of hits in each word list. -/
structure Score where
  /-- Hits of the dialect. -/
  target : Nat
  /-- Hits of English. -/
  english : Nat
  /-- Hits of French. -/
  french : Nat
  /-- Hits of German. -/
  german : Nat
deriving DecidableEq, Repr

/-- How many words of a list stand in a word list. -/
def hits (lexicon words : List String) : Nat :=
  words.countP (lexicon.contains ·)

namespace Score

/-- Count words against the four word lists. -/
def ofTokens (words : List String) : Score where
  target := hits Lexicon.target words
  english := hits Lexicon.english words
  french := hits Lexicon.french words
  german := hits Lexicon.german words

/-- The hits of the strongest foreign language. -/
def other (score : Score) : Nat :=
  max (max score.english score.french) score.german

/-- A foreign language has at least two hits and more than the dialect. -/
def outweighsTarget (score : Score) : Bool :=
  score.other ≥ 2 && score.other > score.target

/-- Only foreign languages have hits. -/
def onlyOther (score : Score) : Bool :=
  score.target == 0 && score.other ≥ 1

/-- The verdict for a direction. -/
def verdict (score : Score) : Direction -> Kind
  | .inbound => if score.outweighsTarget || score.onlyOther then .other else .target
  | .outbound => if score.onlyOther || score.outweighsTarget then .other else .target

end Score

/-- The verdict on the words of a text. -/
def judge (words : List String) (direction : Direction) : Kind :=
  if words.isEmpty then .target else (Score.ofTokens words).verdict direction

/-- The language of a text. -/
def classify (text : String) (direction : Direction) : Kind :=
  judge (tokens text) direction

/-- The language of a text of a user. -/
def ofUser (text : String) : Kind :=
  classify text .inbound

/-- The language of a text of the model. -/
def ofModel (text : String) : Kind :=
  classify text .outbound

/-- Without words there are no hits. -/
@[simp]
theorem hits_nil (lexicon : List String) : hits lexicon [] = 0 := rfl

/-- Hits add up over two lists of words. -/
theorem hits_append (lexicon first second : List String) :
    hits lexicon (first ++ second) = hits lexicon first + hits lexicon second := by
  simp [hits]

end Language
end FlemishDesk
