import FlemishDesk.Proofs.Settings.Loading
import Mathlib

/-!
# Variables with several names

An integer is taken from the first of its variables that is set to one.  A variable that
is not set, or not to an integer of sixty-four bits, is passed over; zero and negative
integers are not.  Nothing depends on the variables behind the one that decides.
-/

namespace FlemishDesk
namespace Settings

/-- A variable is set to an integer of sixty-four bits. -/
def IsSetTo (lookup : Lookup) (name : String) (value : Int) : Prop :=
  ∃ text, Reads lookup name text ∧ Number.WritesInteger text value ∧
    -2 ^ 63 ≤ value ∧ value < 2 ^ 63

/-- The value that several variables give: the first that is set to an integer
decides. -/
inductive Gives (lookup : Lookup) (fallback : Int) : List String -> Int -> Prop
  | unset : Gives lookup fallback [] fallback
  | decided {name : String} {others : List String} {value : Int} :
      IsSetTo lookup name value -> Gives lookup fallback (name :: others) value
  | passed {name : String} {others : List String} {value : Int} :
      (∀ integer, ¬ IsSetTo lookup name integer) -> Gives lookup fallback others value ->
        Gives lookup fallback (name :: others) value

/-- The names of the budget of characters. -/
def charsNames : List String := ["MAX_INPUT_CHARS", "AI_MAX_INPUT_CHARS"]

/-- The names of the requests in a minute. -/
def requestsNames : List String := ["RATE_LIMIT_PER_MINUTE", "AI_RATE_LIMIT_PER_MINUTE"]

/-- The name of the time between two checks. -/
def pollNames : List String := ["POLL_INTERVAL_MS"]

/-- The settings that are integers, each with its names in order. -/
def integerNames : List (List String) := [charsNames, requestsNames, pollNames]

/-- The name stands behind another one of the same setting that is set to an integer. -/
def Shadowed (lookup : Lookup) (name : String) : Prop :=
  ∃ names ∈ integerNames, ∃ decider value,
    [decider, name].Sublist names ∧ IsSetTo lookup decider value

/-! ## One setting -/

theorem isSetTo_iff
    {lookup : Lookup}
    {name : String}
    {value : Int} :
    IsSetTo lookup name value <->
      ((lookup name).bind fun raw => Number.signed? (Text.trim raw.toList)) =
        some value := by
  have bound : (Int.ofNat Number.signedBound) = 2 ^ 63 := rfl
  rw [Option.bind_eq_some_iff]
  simp only [Number.signed?_eq_some_iff, bound]
  constructor
  · rintro ⟨_, ⟨raw, set, rfl⟩, written⟩
    exact ⟨raw, set, written⟩
  · rintro ⟨raw, set, written⟩
    exact ⟨_, ⟨raw, set, rfl⟩, written⟩

theorem integerOr_cons_of_isSetTo
    {lookup : Lookup}
    {name : String}
    {value : Int}
    (set : IsSetTo lookup name value)
    (others : List String)
    (fallback : Int) :
    integerOr lookup (name :: others) fallback = value := by
  rw [integerOr, List.findSome?_cons, isSetTo_iff.mp set, Option.getD_some]

theorem integerOr_cons_of_not_isSetTo
    {lookup : Lookup}
    {name : String}
    (unset : ∀ value, ¬ IsSetTo lookup name value)
    (others : List String)
    (fallback : Int) :
    integerOr lookup (name :: others) fallback = integerOr lookup others fallback := by
  have nothing :
      ((lookup name).bind fun raw => Number.signed? (Text.trim raw.toList)) = none := by
    rw [Option.eq_none_iff_forall_ne_some]
    intro value found
    exact unset value (isSetTo_iff.mpr found)
  rw [integerOr, List.findSome?_cons, nothing]
  rfl

theorem gives_integerOr
    (lookup : Lookup)
    (names : List String)
    (fallback : Int) :
    Gives lookup fallback names (integerOr lookup names fallback) := by
  induction names with
  | nil => exact .unset
  | cons name others inductionHypothesis =>
      by_cases set : ∃ value, IsSetTo lookup name value
      · obtain ⟨value, set⟩ := set
        rw [integerOr_cons_of_isSetTo set]
        exact .decided set
      · have unset := not_exists.mp set
        rw [integerOr_cons_of_not_isSetTo unset]
        exact .passed unset inductionHypothesis

theorem isSetTo_congr
    {lookup other : Lookup}
    {name : String}
    (same : other name = lookup name)
    (value : Int) :
    IsSetTo other name value <-> IsSetTo lookup name value := by
  rw [isSetTo_iff, isSetTo_iff, same]

theorem mem_tail_of_sublist
    {decider name : String}
    {names : List String}
    (behind : [decider, name].Sublist names) :
    name ∈ names.tail := by
  cases behind with
  | cons _ behind => exact behind.subset (List.mem_cons_of_mem _ List.mem_cons_self)
  | cons_cons _ behind => exact behind.subset List.mem_cons_self

theorem Gives.bounds
    {lookup : Lookup}
    {fallback value : Int}
    {names : List String}
    (gives : Gives lookup fallback names value)
    (bounds : -2 ^ 63 ≤ fallback ∧ fallback < 2 ^ 63) :
    -2 ^ 63 ≤ value ∧ value < 2 ^ 63 := by
  induction gives with
  | unset => exact bounds
  | decided set =>
      obtain ⟨_, -, -, bounds⟩ := set
      exact bounds
  | passed _ _ inductionHypothesis => exact inductionHypothesis

/-- Names behind one that decides may be set to anything. -/
theorem integerOr_eq_of_agree
    {lookup other : Lookup}
    {names : List String}
    (distinct : names.Nodup)
    (agree : ∀ name ∈ names, other name = lookup name ∨
      ∃ decider value, [decider, name].Sublist names ∧ IsSetTo lookup decider value)
    (fallback : Int) :
    integerOr other names fallback = integerOr lookup names fallback := by
  induction names with
  | nil => rfl
  | cons name others inductionHypothesis =>
      obtain ⟨fresh, distinctOthers⟩ := List.nodup_cons.mp distinct
      have same : other name = lookup name := by
        refine (agree name List.mem_cons_self).resolve_right ?_
        rintro ⟨_, _, behind, -⟩
        exact fresh (mem_tail_of_sublist behind)
      by_cases set : ∃ value, IsSetTo lookup name value
      · obtain ⟨value, set⟩ := set
        rw [integerOr_cons_of_isSetTo set,
          integerOr_cons_of_isSetTo ((isSetTo_congr same value).mpr set)]
      · have unset := not_exists.mp set
        have unsetOther : ∀ value, ¬ IsSetTo other name value := by
          intro value
          rw [isSetTo_congr same]
          exact unset value
        rw [integerOr_cons_of_not_isSetTo unset, integerOr_cons_of_not_isSetTo unsetOther]
        apply inductionHypothesis distinctOthers
        intro later present
        refine (agree later (List.mem_cons_of_mem _ present)).imp_right ?_
        rintro ⟨decider, value, behind, decides⟩
        refine ⟨decider, value, ?_, decides⟩
        cases behind with
        | cons _ behind => exact behind
        | cons_cons _ _ => exact absurd decides (unset value)

/-! ## All settings -/

theorem nodup_of_mem_integerNames : ∀ names ∈ integerNames, names.Nodup := by
  decide

/-- No name belongs to two settings. -/
theorem eq_of_mem_of_mem :
    ∀ names ∈ integerNames, ∀ others ∈ integerNames, ∀ name ∈ names,
    name ∈ others -> names = others := by
  decide

section Agreement

variable {lookup other : Lookup}
variable (agree : ∀ name, other name = lookup name ∨ Shadowed lookup name)

include agree

theorem integerOr_eq_of_mem
    {names : List String}
    (listed : names ∈ integerNames)
    (fallback : Int) :
    integerOr other names fallback = integerOr lookup names fallback := by
  apply integerOr_eq_of_agree (nodup_of_mem_integerNames names listed)
  intro name present
  refine (agree name).imp_right ?_
  rintro ⟨others, listedOthers, decider, value, behind, decides⟩
  obtain rfl := eq_of_mem_of_mem names listed others listedOthers name present
    (List.mem_of_mem_tail (mem_tail_of_sublist behind))
  exact ⟨decider, value, behind, decides⟩

theorem eq_of_not_mem_tail
    {name : String}
    (first : name ∉ integerNames.flatMap List.tail) :
    other name = lookup name := by
  refine (agree name).resolve_right ?_
  rintro ⟨names, listed, _, _, behind, -⟩
  exact first (List.mem_flatMap_of_mem listed (mem_tail_of_sublist behind))

/-- Variables that agree wherever nothing shadows them make the same settings. -/
theorem load_eq_of_agree
    (dataDirectory : Storage.Path) :
    load other dataDirectory = load lookup dataDirectory := by
  have plain (name : String) (first : name ∉ integerNames.flatMap List.tail) :=
    eq_of_not_mem_tail agree first
  have chars := integerOr_eq_of_mem agree (show charsNames ∈ integerNames by decide) 8000
  have requests :=
    integerOr_eq_of_mem agree (show requestsNames ∈ integerNames by decide) 30
  have poll := integerOr_eq_of_mem agree (show pollNames ∈ integerNames by decide) 300000
  simp only [charsNames, requestsNames, pollNames] at chars requests poll
  have samePort : port other = port lookup := by
    simp (disch := decide) only [port, plain]
  have sameTimeout : timeout other = timeout lookup := by
    simp (disch := decide) only [timeout, plain]
  have sameServer (number : Nat) : serverOf other number = serverOf lookup number := by
    simp (disch :=
      decide) only [serverOf, limitsOf, chars, requests, textOr, filled?, plain]
  have sameModel (duration : Number.Duration) :
      modelOf other duration = modelOf lookup duration := by
    simp (disch := decide) only [modelOf, textOr, plain]
  have sameBot (path : Storage.Path) : botOf other path = botOf lookup path := by
    simp (disch := decide) only [botOf, poll, textOr, filled?, plain]
  simp (disch :=
    decide) only [load, samePort, sameTimeout, sameServer, sameModel, sameBot, textOr,
    plain]

end Agreement

/-- A number of milliseconds that a signed word holds is read off an unsigned word
unchanged. -/
theorem toNat_toUInt64_ofInt
    {n : Int}
    (nonnegative : 0 ≤ n)
    (bound : n < 2 ^ 63) :
    (Int64.ofInt n).toUInt64.toNat = n.toNat := by
  have unsigned : n < ((2 ^ 64 : Nat) : Int) := lt_trans bound (by norm_num)
  change (BitVec.ofInt 64 n).toNat = n.toNat
  rw [BitVec.toNat_ofInt, Int.emod_eq_of_lt nonnegative unsigned]

theorem milliseconds_ofMilliseconds (n : Nat) :
    (Number.Duration.ofMilliseconds n).milliseconds = n := by
  dsimp only [Number.Duration.ofMilliseconds, Number.Duration.ofNanoseconds,
    Number.Duration.milliseconds, Number.Duration.second]
  omega

/-- Each integer among the settings is given by the first of its names that is set to
one, and no name behind that one matters. -/
theorem load_follows_first_name
    {lookup : Lookup}
    {dataDirectory : Storage.Path}
    {settings : Settings}
    (loaded : load lookup dataDirectory = .ok settings) :
    (∃ chars, Gives lookup 8000 charsNames chars ∧
        (settings.server.limits.maxInputChars : Int) = max chars 0) ∧
      settings.server.limits.maxBodyBytes =
        min (8 * settings.server.limits.maxInputChars) (2 ^ 64 - 1) ∧
      Gives lookup 30 requestsNames settings.server.limits.requestsPerMinute ∧
      (∃ milliseconds, Gives lookup 300000 pollNames milliseconds ∧
        (settings.bot.pollMilliseconds : Int) = max 10000 milliseconds ∧
        (Int64.ofInt (max 10000 milliseconds)).toUInt64.toNat =
          settings.bot.pollMilliseconds ∧
        (Number.Duration.ofMilliseconds settings.bot.pollMilliseconds).milliseconds =
          settings.bot.pollMilliseconds) ∧
      ∀ other : Lookup, (∀ name, other name = lookup name ∨ Shadowed lookup name) ->
        load other dataDirectory = .ok settings := by
  obtain ⟨number, duration, -, -, server, -, bot⟩ := exists_of_load_eq_ok loaded
  rw [server, bot]
  refine ⟨?_, ?_, gives_integerOr lookup requestsNames 30, ?_, ?_⟩
  · exact ⟨_, gives_integerOr lookup charsNames 8000, Int.toNat_eq_max _⟩
  · rw [Nat.mul_comm]
    rfl
  · have gives := gives_integerOr lookup pollNames 300000
    have bounds := gives.bounds (by norm_num)
    have least : (0 : Int) ≤ max 10000 (integerOr lookup pollNames 300000) :=
      le_max_of_le_left (by norm_num)
    have most : max 10000 (integerOr lookup pollNames 300000) < 2 ^ 63 :=
      max_lt (by norm_num) bounds.2
    have poll : (botOf lookup (defaultStatePath dataDirectory)).pollMilliseconds =
        (max 10000 (integerOr lookup pollNames 300000)).toNat := by
      rw [max_comm]
      rfl
    rw [poll]
    exact ⟨_, gives, Int.toNat_of_nonneg least, toNat_toUInt64_ofInt least most,
      milliseconds_ofMilliseconds _⟩
  · intro other agree
    rw [load_eq_of_agree agree, loaded]

/-- One setting with a first name that is set to no integer, one with a first name that
decides. -/
def mixedVariables : Lookup
  | "MAX_INPUT_CHARS" => some "9223372036854775808"
  | "AI_MAX_INPUT_CHARS" => some " -5 "
  | "RATE_LIMIT_PER_MINUTE" => some "0"
  | "POLL_INTERVAL_MS" => some "+9223372036854775807"
  | _ => none

theorem load_follows_first_name_of_mixedVariables :
    ∃ settings, load mixedVariables (.ofText "/home") = .ok settings ∧
      settings.server.limits.maxBodyBytes =
        min (8 * settings.server.limits.maxInputChars) (2 ^ 64 - 1) ∧
      Shadowed mixedVariables "AI_RATE_LIMIT_PER_MINUTE" ∧
      load (fun name => if name =
        "AI_RATE_LIMIT_PER_MINUTE" then some "7" else mixedVariables name)
        (.ofText "/home") = .ok settings := by
  have loaded : ∃ settings, load mixedVariables (.ofText "/home") = .ok settings :=
    ⟨_, rfl⟩
  have shadowed : Shadowed mixedVariables "AI_RATE_LIMIT_PER_MINUTE" :=
    ⟨requestsNames, by decide, "RATE_LIMIT_PER_MINUTE", 0, List.Sublist.refl _,
      isSetTo_iff.mpr (by decide +kernel)⟩
  obtain ⟨settings, loaded⟩ := loaded
  have follows := load_follows_first_name loaded
  refine ⟨settings, loaded, follows.2.1, shadowed, follows.2.2.2.2 _ fun name => ?_⟩
  split
  · next later => exact .inr (later ▸ shadowed)
  · exact .inl rfl

end Settings
end FlemishDesk
