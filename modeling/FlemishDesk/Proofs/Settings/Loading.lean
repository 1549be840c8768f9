import FlemishDesk.Proofs.Number.Fraction
import FlemishDesk.Settings.Basic
import Mathlib

/-!
# When there are settings

Of all the variables only two can stand in the way of settings: a port that is set and
is no port, and a time for an answer that is a finite double but too many seconds for a
duration.  Settings that are made leave at least a second for an answer and ten seconds
between two checks.
-/

namespace FlemishDesk
namespace Settings

open Number (Decimal)

/-- A variable is set, and this is left of it without the blank characters at its
ends. -/
def Reads (lookup : Lookup) (name : String) (text : List Char) : Prop :=
  ∃ raw, lookup name = some raw ∧ Text.trim raw.toList = text

/-- The port is set, to something that writes no number of sixteen bits. -/
def InvalidPort (lookup : Lookup) (raw : String) : Prop :=
  lookup "VLAAMSCODEX_AI_PORT" = some raw ∧
    ¬ ∃ port < 65536, Number.WritesNatural (Text.trim raw.toList) port

/-- The time for an answer is set to a number of seconds. -/
def TimeoutSetTo (lookup : Lookup) (seconds : ℚ) : Prop :=
  ∃ text negative digits exponent, Reads lookup "OLLAMA_TIMEOUT_S" text ∧
    Decimal.WritesFraction text negative digits exponent ∧
      seconds = Decimal.value negative digits exponent

/-- The nearest double is finite, but is no less than the sixty-fourth power of two. -/
def TooManySeconds (seconds : ℚ) : Prop :=
  2 ^ 64 - 2 ^ 10 ≤ seconds ∧ seconds < 2 ^ 1024 - 2 ^ 970

/-! ## The port -/

theorem port_eq_error_iff
    {lookup : Lookup}
    {error : Error} :
    port lookup = .error error <->
      ∃ raw, InvalidPort lookup raw ∧ error = .invalidPort raw := by
  unfold port InvalidPort
  cases set : lookup "VLAAMSCODEX_AI_PORT" with
  | none => simp
  | some raw =>
      simp only [Option.some.injEq]
      cases read : Number.unsigned? 65536 (Text.trim raw.toList) with
      | some port =>
          have written := Number.unsigned?_eq_some_iff.mp read
          refine iff_of_false (by simp) ?_
          rintro ⟨_, ⟨rfl, notWritten⟩, -⟩
          exact notWritten ⟨port, written.2, written.1⟩
      | none =>
          have notWritten : ¬ ∃ port < 65536,
              Number.WritesNatural (Text.trim raw.toList) port := by
            rintro ⟨port, bound, written⟩
            rw [Number.unsigned?_eq_some_iff.mpr ⟨written, bound⟩] at read
            exact Option.some_ne_none port read
          constructor
          · intro failed
            exact ⟨raw, ⟨rfl, notWritten⟩, (Except.error.inj failed).symm⟩
          · rintro ⟨_, ⟨rfl, -⟩, rfl⟩
            rfl

theorem exists_port_iff
    {lookup : Lookup} :
    (∃ number, port lookup = .ok number) <-> ∀ raw, ¬ InvalidPort lookup raw := by
  constructor
  · rintro ⟨number, found⟩ raw invalid
    have failed := port_eq_error_iff.mpr ⟨raw, invalid, rfl⟩
    rw [found] at failed
    cases failed
  · intro valid
    cases found : port lookup with
    | ok number => exact ⟨number, rfl⟩
    | error error =>
        obtain ⟨raw, invalid, -⟩ := port_eq_error_iff.mp found
        exact absurd invalid (valid raw)

/-! ## The time for an answer -/

theorem cast_wordBound_sub : ((Number.wordBound - 1024 : Nat) : ℚ) = 2 ^ 64 - 2 ^ 10 := by
  norm_num [Number.wordBound]

/-- Only a number of at least one second can be too many. -/
theorem TooManySeconds.one_le
    {seconds : ℚ}
    (tooMany : TooManySeconds seconds) :
    1 ≤ seconds := by
  refine le_trans ?_ tooMany.1
  norm_num

theorem tooManySeconds_value_iff
    {negative : Bool}
    {digits : List Char}
    {exponent : Int}
    (one : 1 ≤ Decimal.value negative digits exponent) :
    TooManySeconds (Decimal.value negative digits exponent) <->
      (Number.wordBound - 1024) * Decimal.denominator exponent ≤
          Decimal.numerator digits exponent ∧
        Decimal.magnitude digits exponent < Number.Binary64.overflow := by
  obtain ⟨rfl, -⟩ := (Decimal.one_le_value_iff _ _ _).mp one
  rw [TooManySeconds, ← cast_wordBound_sub, ← Decimal.cast_overflow,
    Decimal.mul_denominator_le_iff]
  rfl

/-- What may become of the time for an answer: a duration of at least a second, unless
the seconds are too many. -/
def Lasts (tooMany : Prop) : Except Error Number.Duration -> Prop
  | .ok duration => ¬ tooMany ∧ 1 ≤ duration.seconds
  | .error error => tooMany ∧ error = .timeoutTooLong

-- How a double is made a duration is a parameter, so that no case split unfolds its
-- arithmetic.
theorem lasts_of_double
    {tooMany : Prop}
    {double? : Option Number.Binary64.Finite}
    {convert : Number.Binary64.Finite -> Option Number.Duration} :
    (double? = none -> ¬ tooMany) ->
      (∀ double, double? = some double -> (convert double = none <-> tooMany) ∧
        ∀ duration, convert double = some duration -> 1 ≤ duration.seconds) ->
      Lasts tooMany
        (match double? with
          | none => .ok leastTimeout
          | some seconds =>
              match convert seconds with
              | some duration => .ok duration
              | none => .error .timeoutTooLong) := by
  intro below above
  cases double? with
  | none => exact ⟨below rfl, le_rfl⟩
  | some double =>
      obtain ⟨missing, made⟩ := above double rfl
      dsimp only
      cases converted : convert double with
      | none => exact ⟨missing.mp converted, rfl⟩
      | some duration =>
          refine ⟨?_, made duration converted⟩
          rw [← missing, converted]
          exact Option.some_ne_none duration

/-- The variable is read in one way only. -/
theorem timeoutSetTo_iff
    {lookup : Lookup}
    {raw : String}
    {negative : Bool}
    {digits : List Char}
    {exponent : Int}
    (set : lookup "OLLAMA_TIMEOUT_S" = some raw)
    (written : Decimal.WritesFraction (Text.trim raw.toList) negative digits exponent)
    (seconds : ℚ) :
    TimeoutSetTo lookup seconds <-> seconds = Decimal.value negative digits exponent := by
  constructor
  · rintro ⟨_, _, _, _, ⟨other, otherSet, rfl⟩, otherWritten, rfl⟩
    obtain rfl : raw = other := Option.some.inj (set.symm.trans otherSet)
    have same := (Decimal.parse?_eq_some_fraction_iff.mpr written).symm.trans
      (Decimal.parse?_eq_some_fraction_iff.mpr otherWritten)
    obtain ⟨rfl, rfl, rfl⟩ := Decimal.fraction.inj (Option.some.inj same)
    rfl
  · intro same
    exact ⟨_, negative, digits, exponent, ⟨raw, set, rfl⟩, written, same⟩

/-- The time for an answer is set to too many seconds. -/
def TimeoutTooLong (lookup : Lookup) : Prop :=
  ∃ seconds, TimeoutSetTo lookup seconds ∧ TooManySeconds seconds

theorem lasts_timeout (lookup : Lookup) :
    Lasts (TimeoutTooLong lookup) (timeout lookup) := by
  dsimp only [timeout]
  split
  · next unset =>
      refine ⟨?_, by decide⟩
      rintro ⟨_, ⟨_, negative, digits, exponent, ⟨raw, set, rfl⟩, written, rfl⟩, tooMany⟩
      have finite := ((tooManySeconds_value_iff tooMany.one_le).mp tooMany).2
      rw [← Decimal.isFinite_fraction_iff written.isNumeral.2 negative] at finite
      rw [set, Option.bind_some, Decimal.parse?_eq_some_fraction_iff.mpr written,
        Option.filter_some, if_pos finite] at unset
      exact Option.some_ne_none _ unset
  · next number found =>
      obtain ⟨raw, set, read⟩ := Option.bind_eq_some_iff.mp found
      obtain ⟨read, finite⟩ := Option.filter_eq_some_iff.mp read
      cases number with
      | notFinite => exact absurd finite Bool.false_ne_true
      | fraction negative digits exponent =>
          have written := Decimal.parse?_eq_some_fraction_iff.mp read
          have allDigits := written.isNumeral.2
          rw [Decimal.isFinite_fraction_iff allDigits] at finite
          simp only [TimeoutTooLong, timeoutSetTo_iff set written, exists_eq_left]
          apply lasts_of_double
          · intro below tooMany
            have small := (Decimal.atLeastOne?_eq_none_iff allDigits finite).mp below
            exact absurd tooMany.one_le (not_le.mpr small)
          · intro double nearest
            have positive := Decimal.denominator_pos exponent
            obtain ⟨large, rounds⟩ :=
              Decimal.rounds_of_atLeastOne? allDigits finite nearest
            rw [tooManySeconds_value_iff large, and_iff_left finite]
            exact ⟨rounds.ofSeconds?_eq_none_iff positive,
              fun _ => rounds.one_le_seconds positive⟩

theorem timeout_eq_error_iff
    {lookup : Lookup}
    {error : Error} :
    timeout lookup = .error error <->
      TimeoutTooLong lookup ∧ error = .timeoutTooLong := by
  have lasts := lasts_timeout lookup
  cases found : timeout lookup with
  | ok duration =>
      rw [found] at lasts
      exact iff_of_false (by simp) (fun tooLong => lasts.1 tooLong.1)
  | error cause =>
      rw [found] at lasts
      obtain ⟨tooLong, rfl⟩ := lasts
      rw [Except.error.injEq, eq_comm, and_iff_right tooLong]

theorem one_le_of_timeout
    {lookup : Lookup}
    {duration : Number.Duration}
    (found : timeout lookup = .ok duration) :
    1 ≤ duration.seconds := by
  have lasts := lasts_timeout lookup
  rw [found] at lasts
  exact lasts.2

/-! ## All settings -/

theorem load_eq_error_iff
    {lookup : Lookup}
    {dataDirectory : Storage.Path}
    {error : Error} :
    load lookup dataDirectory = .error error <->
      port lookup = .error error ∨ (∃ number, port lookup = .ok number) ∧
        timeout lookup = .error error := by
  unfold load
  cases port lookup with
  | error early => simp [bind, Except.bind]
  | ok number =>
      cases timeout lookup with
      | error late => simp [bind, Except.bind]
      | ok duration => simp [bind, Except.bind, pure, Except.pure]

theorem exists_of_load_eq_ok
    {lookup : Lookup}
    {dataDirectory : Storage.Path}
    {settings : Settings}
    (loaded : load lookup dataDirectory = .ok settings) :
    ∃ number duration, port lookup = .ok number ∧ timeout lookup = .ok duration ∧
      settings.server = serverOf lookup number ∧
        settings.model = modelOf lookup duration ∧
        settings.bot = botOf lookup (defaultStatePath dataDirectory) := by
  unfold load at loaded
  cases foundPort : port lookup with
  | error early => simp [foundPort, bind, Except.bind] at loaded
  | ok number =>
      cases foundTimeout : timeout lookup with
      | error late => simp [foundPort, foundTimeout, bind, Except.bind] at loaded
      | ok duration =>
          rw [foundPort, foundTimeout] at loaded
          obtain rfl := Except.ok.inj loaded
          exact ⟨number, duration, rfl, rfl, rfl, rfl, rfl⟩

theorem exists_load_iff
    {lookup : Lookup}
    {dataDirectory : Storage.Path} :
    (∃ settings, load lookup dataDirectory = .ok settings) <->
      (∀ raw, ¬ InvalidPort lookup raw) ∧ ¬ TimeoutTooLong lookup := by
  rw [← exists_port_iff]
  constructor
  · rintro ⟨settings, loaded⟩
    obtain ⟨number, duration, foundPort, foundTimeout, -⟩ := exists_of_load_eq_ok loaded
    refine ⟨⟨number, foundPort⟩, fun tooLong => ?_⟩
    rw [timeout_eq_error_iff.mpr ⟨tooLong, rfl⟩] at foundTimeout
    cases foundTimeout
  · rintro ⟨⟨number, foundPort⟩, fits⟩
    cases loaded : load lookup dataDirectory with
    | ok settings => exact ⟨settings, rfl⟩
    | error error =>
        rcases load_eq_error_iff.mp loaded with failed | ⟨-, failed⟩
        · rw [foundPort] at failed
          cases failed
        · exact absurd (timeout_eq_error_iff.mp failed).1 fits

/-- Loading fails on a port that is no port and, with the port in order, on a time for
an answer that is too long.  All other variables make settings, and these keep both
least times. -/
theorem load_fails_on_port_or_long_timeout
    (lookup : Lookup)
    (dataDirectory : Storage.Path) :
    (∀ raw, load lookup dataDirectory = .error (.invalidPort raw) <->
        InvalidPort lookup raw) ∧
      (load lookup dataDirectory = .error .timeoutTooLong <->
        (∀ raw, ¬ InvalidPort lookup raw) ∧ TimeoutTooLong lookup) ∧
      ((∃ settings, load lookup dataDirectory = .ok settings) <->
        (∀ raw, ¬ InvalidPort lookup raw) ∧ ¬ TimeoutTooLong lookup) ∧
      ∀ settings, load lookup dataDirectory = .ok settings ->
        1 ≤ settings.model.timeout.seconds ∧ 10000 ≤ settings.bot.pollMilliseconds := by
  refine ⟨?_, ?_, exists_load_iff, ?_⟩
  · intro raw
    rw [load_eq_error_iff, port_eq_error_iff, timeout_eq_error_iff]
    simp
  · rw [load_eq_error_iff, port_eq_error_iff, timeout_eq_error_iff, exists_port_iff]
    simp
  · intro settings loaded
    obtain ⟨number, duration, -, foundTimeout, -, model, bot⟩ :=
      exists_of_load_eq_ok loaded
    rw [model, bot]
    refine ⟨one_le_of_timeout foundTimeout, ?_⟩
    have least :=
      le_max_right (integerOr lookup ["POLL_INTERVAL_MS"] 300000) leastPollMilliseconds
    exact Int.toNat_le_toNat least

/-- A time for an answer and a time between two checks that are both set to less than
the least. -/
def hastyVariables : Lookup
  | "OLLAMA_TIMEOUT_S" => some " -3e2 "
  | "POLL_INTERVAL_MS" => some "9999"
  | _ => none

theorem load_keeps_least_times_of_hastyVariables :
    ∃ settings, load hastyVariables (.ofText "/home") = .ok settings ∧
      1 ≤ settings.model.timeout.seconds ∧ 10000 ≤ settings.bot.pollMilliseconds := by
  have loaded : ∃ settings, load hastyVariables (.ofText "/home") = .ok settings :=
    ⟨_, rfl⟩
  obtain ⟨settings, loaded⟩ := loaded
  exact ⟨settings, loaded, (load_fails_on_port_or_long_timeout _ _).2.2.2 settings loaded⟩

/-- A time for an answer that is a finite double, and longer than any duration. -/
def patientVariables : Lookup
  | "OLLAMA_TIMEOUT_S" => some "1e20"
  | _ => none

theorem load_fails_on_patientVariables :
    patientVariables "VLAAMSCODEX_AI_PORT" = none ∧
      load patientVariables (.ofText "/home") = .error .timeoutTooLong := by
  refine ⟨rfl, load_eq_error_iff.mpr (.inr ⟨⟨5174, rfl⟩, ?_⟩)⟩
  have nothing : (timeout patientVariables).toOption = none := by decide +kernel
  cases found : timeout patientVariables with
  | ok duration =>
      rw [found] at nothing
      cases nothing
  | error cause => rw [(timeout_eq_error_iff.mp found).2]

end Settings
end FlemishDesk
