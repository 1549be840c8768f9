import FlemishDesk.Number.Decimal
import FlemishDesk.Proofs.Number.Digits

/-!
# Texts that write numbers

The readers of numbers accept exactly the texts of a small grammar: digits, with a sign
in front or none, and for a fraction a point among the digits and a power of ten behind
them.  The grammar says what is written without saying how it is found.
-/

namespace FlemishDesk
namespace Number

/-! ## Integers -/

/-- At least one decimal digit and nothing else. -/
def IsNumeral (text : List Char) : Prop :=
  text ≠ [] ∧ ∀ c ∈ text, c.isDigit = true

/-- A sign in front or none: whether it is a minus sign, and what stands behind it. -/
inductive Signed : List Char -> Bool -> List Char -> Prop
  | plus (body : List Char) : Signed ('+' :: body) false body
  | minus (body : List Char) : Signed ('-' :: body) true body
  | bare (body : List Char) : Signed body false body

/-- The text writes an integer. -/
def WritesInteger (text : List Char) (n : Int) : Prop :=
  ∃ negative digits, Signed text negative digits ∧ IsNumeral digits ∧
    n =
      if negative then -Int.ofNat (digitsValue digits) else Int.ofNat (digitsValue digits)

/-- The text writes a natural number; there is no minus sign, not even in front of
zero. -/
def WritesNatural (text : List Char) (n : Nat) : Prop :=
  ∃ digits, (text = digits ∨ text = '+' :: digits) ∧ IsNumeral digits ∧
    n = digitsValue digits

theorem digits?_eq_some_iff
    {text : List Char}
    {n : Nat} :
    digits? text = some n <-> IsNumeral text ∧ n = digitsValue text := by
  have refuses : (text.isEmpty || !text.all Char.isDigit) = true <->
      ¬ IsNumeral text := by
    rw [IsNumeral, ← List.all_eq_true, Decidable.not_and_iff_not_or_not]
    simp
  unfold digits?
  split
  · next refused =>
      refine iff_of_false (Option.some_ne_none n).symm ?_
      rintro ⟨numeral, -⟩
      exact refuses.mp refused numeral
  · next accepted =>
      rw [Option.some.injEq, eq_comm]
      exact (and_iff_right (Classical.not_not.mp (mt refuses.mpr accepted))).symm

/-- The decimal digits of a number are read back. -/
theorem digits?_decimal (n : Nat) : digits? (decimal n) = some n :=
  digits?_eq_some_iff.mpr
    ⟨⟨decimal_ne_nil n, fun _ present => isDigit_of_mem_decimal present⟩,
      (digitsValue_decimal n).symm⟩

theorem isNumeral_cons_isDigit
    {c : Char}
    {rest : List Char}
    (numeral : IsNumeral (c :: rest)) :
    c.isDigit = true :=
  numeral.2 c List.mem_cons_self

/-- Whether a minus sign stands in front, and what is left without the sign. -/
def cutSign : List Char -> Bool × List Char
  | '+' :: rest => (false, rest)
  | '-' :: rest => (true, rest)
  | text => (false, text)

/-- Where nothing that starts with a sign is accepted, a sign in front is always cut
off. -/
theorem exists_signed_iff
    {accepts : List Char -> Prop}
    (signless : ∀ c rest, accepts (c :: rest) -> c ≠ '+' ∧ c ≠ '-')
    {text : List Char}
    {negative : Bool} :
    (∃ body, Signed text negative body ∧ accepts body) <->
      negative = (cutSign text).1 ∧ accepts (cutSign text).2 := by
  constructor
  · rintro ⟨body, signed, accepted⟩
    cases signed with
    | plus => exact ⟨rfl, accepted⟩
    | minus => exact ⟨rfl, accepted⟩
    | bare =>
        unfold cutSign
        split
        · exact absurd rfl (signless _ _ accepted).1
        · exact absurd rfl (signless _ _ accepted).2
        · exact ⟨rfl, accepted⟩
  · rintro ⟨rfl, accepted⟩
    unfold cutSign at accepted ⊢
    split at accepted
    · exact ⟨_, .plus _, accepted⟩
    · exact ⟨_, .minus _, accepted⟩
    · exact ⟨_, .bare _, accepted⟩

theorem Decimal.exponent?_eq_map (text : List Char) :
    Decimal.exponent? text = (digits? (cutSign text).2).map fun n =>
      if (cutSign text).1 then -Int.ofNat n else Int.ofNat n := by
  unfold Decimal.exponent?
  split
  · rfl
  · rfl
  · next notPlus notMinus =>
      rw [cutSign.eq_3 text notPlus notMinus]
      rfl

theorem Decimal.exponent?_eq_some_iff
    {text : List Char}
    {n : Int} :
    Decimal.exponent? text = some n <-> WritesInteger text n := by
  have signless (negative : Bool) (c : Char) (rest : List Char) :
      IsNumeral (c :: rest) ∧ n = (if negative then -Int.ofNat (digitsValue (c :: rest))
        else Int.ofNat (digitsValue (c :: rest))) -> c ≠ '+' ∧ c ≠ '-' := by
    rintro ⟨numeral, -⟩
    have isDigit := isNumeral_cons_isDigit numeral
    constructor <;> rintro rfl <;> exact absurd isDigit (by decide)
  rw [Decimal.exponent?_eq_map, Option.map_eq_some_iff]
  simp only [digits?_eq_some_iff]
  refine Iff.trans ?_ (exists_congr fun negative =>
    exists_signed_iff (signless negative)).symm
  constructor
  · rintro ⟨_, ⟨numeral, rfl⟩, rfl⟩
    exact ⟨_, rfl, numeral, rfl⟩
  · rintro ⟨_, rfl, numeral, rfl⟩
    exact ⟨_, ⟨numeral, rfl⟩, rfl⟩

/-- Exactly the integers of sixty-four bits are read. -/
theorem signed?_eq_some_iff
    {text : List Char}
    {n : Int} :
    signed? text = some n <->
      WritesInteger text n ∧ -Int.ofNat signedBound ≤ n ∧ n < Int.ofNat signedBound := by
  have reads : signed? text = (Decimal.exponent? text).filter fun n =>
      decide (-Int.ofNat signedBound ≤ n) && decide (n < Int.ofNat signedBound) := rfl
  rw [reads, Option.filter_eq_some_iff, Decimal.exponent?_eq_some_iff, Bool.and_eq_true,
    decide_eq_true_eq, decide_eq_true_eq]

/-- Exactly the natural numbers below the bound are read. -/
theorem unsigned?_eq_some_iff
    {bound : Nat}
    {text : List Char}
    {n : Nat} :
    unsigned? bound text = some n <-> WritesNatural text n ∧ n < bound := by
  unfold unsigned?
  simp only [Option.filter_eq_some_iff, digits?_eq_some_iff, decide_eq_true_eq]
  refine and_congr_left fun _ => ?_
  split
  · next rest =>
      constructor
      · rintro ⟨numeral, value⟩
        exact ⟨rest, .inr rfl, numeral, value⟩
      · rintro ⟨digits, rfl | starts, numeral, value⟩
        · exact absurd (isNumeral_cons_isDigit numeral) (by decide)
        · exact (List.cons.inj starts).2 ▸ ⟨numeral, value⟩
  · next notPlus =>
      constructor
      · rintro ⟨numeral, value⟩
        exact ⟨text, .inl rfl, numeral, value⟩
      · rintro ⟨digits, rfl | starts, numeral, value⟩
        · exact ⟨numeral, value⟩
        · exact absurd starts (notPlus digits)

/-! ## Fractions -/

namespace Decimal

/-- Digits with a point among them or none: all the digits, and how many stand behind
the point. -/
inductive Pointed : List Char -> List Char -> Nat -> Prop
  | whole (digits : List Char) : Pointed digits digits 0
  | point (whole part : List Char) :
      Pointed (whole ++ '.' :: part) (whole ++ part) part.length

/-- A power of ten behind the digits, or nothing. -/
inductive Power : List Char -> Int -> Prop
  | none : Power [] 0
  | mark {c : Char} {text : List Char} {power : Int} :
      c = 'e' ∨ c = 'E' -> WritesInteger text power -> Power (c :: text) power

/-- The text writes digits, taken as an integer, times a power of ten. -/
def WritesMagnitude (text digits : List Char) (exponent : Int) : Prop :=
  ∃ mantissa tail places power, text = mantissa ++ tail ∧ Pointed mantissa digits places ∧
    IsNumeral digits ∧ Power tail power ∧ exponent = -Int.ofNat places + power

/-- What the text behind the digits makes of them. -/
def scaled? (negative : Bool) (digits : List Char) (moved : Int) :
    List Char -> Option Decimal
  | [] => some (.fraction negative digits moved)
  | c :: more =>
      if c == 'e' || c == 'E' then
        (exponent? more).map fun power => .fraction negative digits (moved + power)
      else
        none

theorem scaled?_eq_some_iff
    {negative : Bool}
    {digits tail : List Char}
    {moved : Int}
    {number : Decimal} :
    scaled? negative digits moved tail = some number <->
      ∃ power, Power tail power ∧ number = .fraction negative digits (moved + power) := by
  cases tail with
  | nil =>
      constructor
      · intro found
        exact ⟨0, .none, by rw [Int.add_zero, Option.some.inj found]⟩
      · rintro ⟨power, written, rfl⟩
        cases written with
        | none => rw [Int.add_zero, scaled?]
  | cons c more =>
      have marked : (c == 'e' || c == 'E') = true <-> c = 'e' ∨ c = 'E' := by simp
      rw [scaled?]
      split
      · next isMark =>
          simp only [Option.map_eq_some_iff, exponent?_eq_some_iff]
          constructor
          · rintro ⟨power, written, rfl⟩
            exact ⟨power, .mark (marked.mp isMark) written, rfl⟩
          · rintro ⟨power, written, rfl⟩
            cases written with
            | mark _ written => exact ⟨power, written, rfl⟩
      · next noMark =>
          refine iff_of_false (Option.some_ne_none number).symm ?_
          rintro ⟨power, written, -⟩
          cases written with
          | mark isMark _ => exact noMark (marked.mpr isMark)

/-- A text does not go on with a digit. -/
def Ends (tail : List Char) : Prop :=
  ∀ c ∈ tail.head?, c.isDigit = false

theorem takeWhile_digits
    {digits tail : List Char}
    (allDigits : ∀ c ∈ digits, c.isDigit = true)
    (ends : Ends tail) :
    (digits ++ tail).takeWhile Char.isDigit = digits ∧
      (digits ++ tail).dropWhile Char.isDigit = tail := by
  rw [List.takeWhile_append_of_pos allDigits, List.dropWhile_append_of_pos allDigits]
  cases tail with
  | nil => exact ⟨List.append_nil digits, rfl⟩
  | cons c rest =>
      have other := ends c rfl
      rw [List.takeWhile_cons, List.dropWhile_cons, other]
      exact ⟨List.append_nil digits, rfl⟩

theorem magnitude?_whole
    {whole tail : List Char}
    (allDigits : ∀ c ∈ whole, c.isDigit = true)
    (ends : Ends tail)
    (noPoint : tail.head? ≠ some '.')
    (negative : Bool) :
    magnitude? negative (whole ++ tail) =
      if whole.isEmpty then none else scaled? negative whole 0 tail := by
  obtain ⟨taken, dropped⟩ := takeWhile_digits allDigits ends
  unfold magnitude?
  rw [taken, dropped]
  cases tail with
  | nil => simp [scaled?]
  | cons c rest =>
      have other : c ≠ '.' := fun isPoint => noPoint (congrArg some isPoint)
      simp [other, scaled?]

theorem magnitude?_point
    {whole part tail : List Char}
    (wholeDigits : ∀ c ∈ whole, c.isDigit = true)
    (partDigits : ∀ c ∈ part, c.isDigit = true)
    (ends : Ends tail)
    (negative : Bool) :
    magnitude? negative (whole ++ '.' :: (part ++ tail)) =
      if whole.isEmpty && part.isEmpty then none
      else scaled? negative (whole ++ part) (-Int.ofNat part.length) tail := by
  have pointEnds : Ends ('.' :: (part ++ tail)) := by
    intro c isHead
    rw [← Option.some.inj isHead]
    decide
  obtain ⟨taken, dropped⟩ := takeWhile_digits wholeDigits pointEnds
  obtain ⟨takenPart, droppedPart⟩ := takeWhile_digits partDigits ends
  unfold magnitude?
  rw [taken, dropped]
  simp only [takenPart, droppedPart]
  cases tail <;> rfl

theorem exists_ends (text : List Char) :
    ∃ digits tail, text = digits ++ tail ∧ (∀ c ∈ digits, c.isDigit = true) ∧
      Ends tail := by
  refine ⟨text.takeWhile Char.isDigit, text.dropWhile Char.isDigit,
    List.takeWhile_append_dropWhile.symm, List.all_eq_true.mp List.all_takeWhile, ?_⟩
  intro c isHead
  have other := List.head?_dropWhile_not Char.isDigit text
  rw [Option.mem_def.mp isHead] at other
  exact other

theorem Power.ends
    {tail : List Char}
    {power : Int}
    (written : Power tail power) :
    Ends tail ∧ tail.head? ≠ some '.' := by
  cases written with
  | none => exact ⟨fun c isHead => absurd isHead (Option.not_mem_none c), nofun⟩
  | mark isMark _ =>
      rcases isMark with rfl | rfl
      · exact ⟨fun c isHead => Option.some.inj isHead ▸ by decide, by simp⟩
      · exact ⟨fun c isHead => Option.some.inj isHead ▸ by decide, by simp⟩

/-- The reader of fractions without a sign accepts exactly what the grammar allows. -/
theorem magnitude?_eq_some_iff
    {negative : Bool}
    {text : List Char}
    {number : Decimal} :
    magnitude? negative text = some number <->
      ∃ digits exponent, WritesMagnitude text digits exponent ∧
        number = .fraction negative digits exponent := by
  constructor
  · intro found
    obtain ⟨whole, tail, rfl, wholeDigits, ends⟩ := exists_ends text
    by_cases point : tail.head? = some '.'
    · obtain ⟨rest, rfl⟩ := List.head?_eq_some_iff.mp point
      obtain ⟨part, tail, rfl, partDigits, ends⟩ := exists_ends rest
      rw [magnitude?_point wholeDigits partDigits ends] at found
      split at found
      · exact absurd found.symm (Option.some_ne_none number)
      · next nonempty =>
          obtain ⟨power, written, rfl⟩ := scaled?_eq_some_iff.mp found
          refine ⟨_, _, ⟨whole ++ '.' :: part, tail, part.length, power, by simp,
            .point whole part, ⟨by simpa using nonempty, ?_⟩, written, rfl⟩, rfl⟩
          intro c present
          exact (List.mem_append.mp present).elim (wholeDigits c) (partDigits c)
    · rw [magnitude?_whole wholeDigits ends point] at found
      split at found
      · exact absurd found.symm (Option.some_ne_none number)
      · next nonempty =>
          obtain ⟨power, written, rfl⟩ := scaled?_eq_some_iff.mp found
          exact ⟨_, _, ⟨whole, tail, 0, power, rfl, .whole whole,
            ⟨by simpa using nonempty, wholeDigits⟩, written, rfl⟩, rfl⟩
  · rintro ⟨digits, exponent,
      ⟨mantissa, tail, places, power, rfl, pointed, numeral, written, rfl⟩, rfl⟩
    obtain ⟨ends, noPoint⟩ := written.ends
    cases pointed with
    | whole =>
        rw [magnitude?_whole numeral.2 ends noPoint, if_neg (by simpa using numeral.1),
          scaled?_eq_some_iff]
        exact ⟨power, written, rfl⟩
    | point whole part =>
        obtain ⟨nonempty, allDigits⟩ := numeral
        rw [List.append_assoc, List.cons_append, magnitude?_point
          (fun c present => allDigits c (List.mem_append_left _ present))
          (fun c present => allDigits c (List.mem_append_right _ present)) ends,
          if_neg (by simpa using nonempty), scaled?_eq_some_iff]
        exact ⟨power, written, rfl⟩

/-- The text writes a fraction: a sign or none, and then digits times a power of ten. -/
def WritesFraction (text : List Char) (negative : Bool) (digits : List Char)
    (exponent : Int) : Prop :=
  ∃ body, Signed text negative body ∧ WritesMagnitude body digits exponent

theorem WritesFraction.isNumeral
    {text digits : List Char}
    {negative : Bool}
    {exponent : Int}
    (written : WritesFraction text negative digits exponent) :
    IsNumeral digits := by
  obtain ⟨body, -, mantissa, tail, places, power, -, -, numeral, -, -⟩ := written
  exact numeral

theorem WritesMagnitude.starts
    {text digits : List Char}
    {exponent : Int}
    (written : WritesMagnitude text digits exponent) :
    ∃ c rest, text = c :: rest ∧ (c.isDigit = true ∨ c = '.') := by
  obtain ⟨mantissa, tail, places, power, rfl, pointed, ⟨nonempty, allDigits⟩, -, -⟩ :=
    written
  cases pointed with
  | whole =>
      obtain ⟨c, others, rfl⟩ := List.exists_cons_of_ne_nil nonempty
      exact ⟨c, others ++ tail, rfl, .inl (allDigits c List.mem_cons_self)⟩
  | point whole part =>
      cases whole with
      | nil => exact ⟨'.', part ++ tail, rfl, .inr rfl⟩
      | cons c others =>
          exact ⟨c, others ++ '.' :: part ++ tail, rfl,
            .inl (allDigits c List.mem_cons_self)⟩

/-- The words for what is no number. -/
def isWord (body : List Char) : Bool :=
  let word := String.ofList (body.map Char.toLower)
  word == "inf" || word == "infinity" || word == "nan"

theorem WritesMagnitude.not_isWord
    {text digits : List Char}
    {exponent : Int}
    (written : WritesMagnitude text digits exponent) :
    isWord text = false := by
  obtain ⟨c, rest, rfl, starts⟩ := written.starts
  have noCapital : ¬ (65 ≤ c.toNat ∧ c.toNat ≤ 90) := by
    rcases starts with isDigit | rfl
    · obtain ⟨-, upper⟩ := Char.isDigit_iff_toNat.mp isDigit
      have nine : '9'.toNat = 57 := rfl
      omega
    · decide
  have unchanged : c.toLower = c := dif_neg noCapital
  have differs {word : String} {first : Char} (head : word.toList.head? = some first)
      (letter : first.isDigit = false ∧ first ≠ '.') :
      (String.ofList ((c :: rest).map Char.toLower) == word) = false := by
    refine beq_false_of_ne ?_
    rintro rfl
    rw [String.toList_ofList, List.map_cons, List.head?_cons, unchanged,
      Option.some.injEq] at head
    subst head
    exact starts.elim (fun isDigit => Bool.false_ne_true (letter.1.symm.trans isDigit))
      letter.2
  have inf : "inf".toList.head? = some 'i' := rfl
  have infinity : "infinity".toList.head? = some 'i' := rfl
  have nan : "nan".toList.head? = some 'n' := rfl
  rw [isWord, differs inf (by decide), differs infinity (by decide),
    differs nan (by decide)]
  rfl

/-- What stands behind the sign is no word for what is no number, and writes the
digits. -/
theorem reads_body_iff
    {sign negative : Bool}
    {body digits : List Char}
    {exponent : Int} :
    (if isWord body then some .notFinite else magnitude? sign body) =
        some (.fraction negative digits exponent) <->
      negative = sign ∧ WritesMagnitude body digits exponent := by
  constructor
  · intro found
    split at found
    · cases found
    · obtain ⟨_, _, written, same⟩ := magnitude?_eq_some_iff.mp found
      obtain ⟨rfl, rfl, rfl⟩ := Decimal.fraction.inj same
      exact ⟨rfl, written⟩
  · rintro ⟨rfl, written⟩
    rw [written.not_isWord]
    exact magnitude?_eq_some_iff.mpr ⟨digits, exponent, written, rfl⟩

theorem parse?_eq_ite (text : List Char) :
    parse? text = if isWord (cutSign text).2 then some .notFinite
      else magnitude? (cutSign text).1 (cutSign text).2 := by
  unfold parse?
  split
  next sign body cut =>
    have same : cutSign text = (sign, body) := by
      rw [← cut]
      split
      · rfl
      · rfl
      · next notPlus notMinus => exact cutSign.eq_3 text notPlus notMinus
    rw [same]
    rfl

/-- The reader of fractions accepts exactly what the grammar allows. -/
theorem parse?_eq_some_fraction_iff
    {text digits : List Char}
    {negative : Bool}
    {exponent : Int} :
    parse? text = some (.fraction negative digits exponent) <->
      WritesFraction text negative digits exponent := by
  have signless (c : Char) (rest : List Char) :
      WritesMagnitude (c :: rest) digits exponent -> c ≠ '+' ∧ c ≠ '-' := by
    intro written
    obtain ⟨_, _, same, starts⟩ := written.starts
    obtain ⟨rfl, -⟩ := List.cons.inj same
    constructor <;> rintro rfl <;> exact absurd starts (by decide)
  rw [parse?_eq_ite, WritesFraction, exists_signed_iff signless]
  exact reads_body_iff

end Decimal
end Number
end FlemishDesk
