import FlemishDesk.Release.Moment

/-!
# Written moments

A moment is written as a clock somewhere shows it: the date, the time of day, and how
far the clock is ahead of universal time.  The texts that write a clock reading are said
without the reader, piece by piece.  The reader accepts exactly these texts, and the
moment that it finds is the reading of the clock less the offset of the clock.
-/

namespace FlemishDesk

namespace Time

/-! ## Numbers with a fixed number of digits -/

/-- Some digits, `count` of them, write a number. -/
structure IsNumeral (count value : Nat) (digits : List Char) : Prop where
  length : digits.length = count
  isDigit : digits.all Char.isDigit = true
  value : Number.digitsValue digits = value

variable {count value : Nat} {text rest digits : List Char}

theorem fixed?_append
    (numeral : IsNumeral count value digits)
    (rest : List Char) :
    fixed? count (digits ++ rest) = some (value, rest) := by
  obtain ⟨rfl, allDigits, rfl⟩ := numeral
  simp [fixed?, allDigits]

theorem fixed?_eq_some_iff :
    fixed? count text = some (value, rest) <->
      ∃ digits, text = digits ++ rest ∧ IsNumeral count value digits := by
  constructor
  · intro read
    unfold fixed? at read
    dsimp only at read
    split at read
    · next isNumber =>
        obtain ⟨long, allDigits⟩ := Bool.and_eq_true_iff.mp isNumber
        obtain ⟨isValue, rfl⟩ := Prod.mk.inj (Option.some.inj read)
        exact ⟨text.take count, (List.take_append_drop count text).symm,
          beq_iff_eq.mp long, allDigits, isValue⟩
    · cases read
  · rintro ⟨digits, rfl, numeral⟩
    exact fixed?_append numeral rest

theorem mark?_eq_some_iff {c : Char} : mark? c text = some rest <-> text = c :: rest := by
  cases text with
  | nil => simp [mark?]
  | cons d text =>
      simp only [mark?, beq_iff_eq, List.cons.injEq]
      constructor
      · intro read
        split at read
        · next same => exact ⟨same.symm, Option.some.inj read⟩
        · cases read
      · rintro ⟨rfl, rfl⟩
        rw [if_pos rfl]

theorem clock?_append
    {hour minute second : Nat}
    {hours minutes seconds : List Char}
    (isHour : IsNumeral 2 hour hours)
    (isMinute : IsNumeral 2 minute minutes)
    (isSecond : IsNumeral 2 second seconds)
    (rest : List Char) :
    clock? (hours ++ ':' :: (minutes ++ ':' :: (seconds ++ rest))) =
      some ((hour, minute, second), rest) := by
  simp [clock?, fixed?_append isHour, fixed?_append isMinute, fixed?_append isSecond,
    mark?]

/-- The hours, minutes and seconds that are read stand in the text, with colons between
them. -/
theorem clock?_eq_some_iff {hour minute second : Nat} :
    clock? text = some ((hour, minute, second), rest) <->
      ∃ hours minutes seconds,
        text = hours ++ ':' :: (minutes ++ ':' :: (seconds ++ rest)) ∧
          IsNumeral 2 hour hours ∧ IsNumeral 2 minute minutes ∧
            IsNumeral 2 second seconds := by
  constructor
  · intro read
    unfold clock? at read
    simp only [Option.bind_eq_bind, Option.bind_eq_some_iff] at read
    obtain ⟨⟨hour, _⟩, hourRead, _, firstColon, ⟨minute, _⟩, minuteRead, _, secondColon,
      ⟨second, _⟩, secondRead, same⟩ := read
    obtain ⟨hours, rfl, isHour⟩ := fixed?_eq_some_iff.mp hourRead
    cases mark?_eq_some_iff.mp firstColon
    obtain ⟨minutes, rfl, isMinute⟩ := fixed?_eq_some_iff.mp minuteRead
    cases mark?_eq_some_iff.mp secondColon
    obtain ⟨seconds, rfl, isSecond⟩ := fixed?_eq_some_iff.mp secondRead
    cases same
    exact ⟨hours, minutes, seconds, rfl, isHour, isMinute, isSecond⟩
  · rintro ⟨hours, minutes, seconds, rfl, isHour, isMinute, isSecond⟩
    exact clock?_append isHour isMinute isSecond rest

/-- There is such a date in the calendar. -/
structure IsDate (year month day : Nat) : Prop where
  month_pos : 1 ≤ month
  month_le : month ≤ 12
  day_pos : 1 ≤ day
  day_le : day ≤ (monthLengths year).getD (month - 1) 0

/-- The days from the start of the year zero to a date. -/
def dayNumber (year month day : Nat) : Nat :=
  daysBeforeYear year + ((monthLengths year).take (month - 1)).foldr (· + ·) 0 + (day - 1)

theorem dayNumber?_eq_some_iff {year month day days : Nat} :
    dayNumber? year month day = some days <->
      IsDate year month day ∧ days = dayNumber year month day := by
  unfold dayNumber?
  dsimp only
  split
  · next valid =>
      simp only [Bool.and_eq_true, decide_eq_true_eq] at valid
      obtain ⟨⟨⟨monthPos, monthLe⟩, dayPos⟩, dayLe⟩ := valid
      have isDate : IsDate year month day := ⟨monthPos, monthLe, dayPos, dayLe⟩
      simp only [Option.some.injEq, isDate, true_and]
      exact eq_comm
  · next invalid =>
      simp only [Bool.and_eq_true, decide_eq_true_eq] at invalid
      refine iff_of_false (by simp) ?_
      rintro ⟨isDate, _⟩
      exact invalid
        ⟨⟨⟨isDate.month_pos, isDate.month_le⟩, isDate.day_pos⟩, isDate.day_le⟩

end Time

namespace Release

open Time

/-! ## Clocks -/

/-- What a clock shows: a date, a time of day, and the minutes by which the clock is
ahead of universal time.  The sixtieth second of a minute is a leap second. -/
structure ClockReading where
  year : Nat
  month : Nat
  day : Nat
  hour : Nat
  minute : Nat
  second : Nat
  nanoseconds : Nat
  offset : Int
  isDate : IsDate year month day
  hour_le : hour ≤ 23
  minute_le : minute ≤ 59
  second_le : second ≤ 60

namespace ClockReading

/-- The seconds that the clock counts from the start of 1970.  A leap second belongs to
the second before it. -/
def localSeconds (reading : ClockReading) : Int :=
  ((dayNumber reading.year reading.month reading.day : Int) - epochDays) * 86400 +
    (reading.hour * 3600 + reading.minute * 60 + min reading.second 59 : Nat)

/-- The moment at which the clock shows the reading. -/
def moment (reading : ClockReading) : Moment where
  seconds := reading.localSeconds - reading.offset * 60
  nanoseconds := reading.nanoseconds + if reading.second = 60 then 1000000000 else 0

end ClockReading

/-- How a fraction of a second is written, if it is: only nine digits count. -/
inductive WritesFraction : Nat -> List Char -> Prop where
  | none : WritesFraction 0 []
  | digits {digits : List Char}
      (nonempty : digits ≠ [])
      (isDigit : digits.all Char.isDigit = true) :
      WritesFraction
        (Number.digitsValue (digits.take 9) * Nat.pow 10 (9 - (digits.take 9).length))
        ('.' :: digits)

/-- How an offset of some minutes is written. -/
inductive WritesOffset : Int -> List Char -> Prop where
  | universal {letter : Char} (isZ : letter = 'Z' ∨ letter = 'z') :
      WritesOffset 0 [letter]
  | ahead {hour minute : Nat} {hours minutes : List Char}
      (isHour : IsNumeral 2 hour hours)
      (isMinute : IsNumeral 2 minute minutes)
      (hour_le : hour ≤ 23)
      (minute_le : minute ≤ 59) :
      WritesOffset ((hour * 60 + minute : Nat) : Int) ('+' :: (hours ++ ':' :: minutes))
  | behind {hour minute : Nat} {hours minutes : List Char} {sign : Char}
      (isMinus : sign = '-' ∨ sign = '−')
      (isHour : IsNumeral 2 hour hours)
      (isMinute : IsNumeral 2 minute minutes)
      (hour_le : hour ≤ 23)
      (minute_le : minute ≤ 59) :
      WritesOffset (-((hour * 60 + minute : Nat) : Int))
        (sign :: (hours ++ ':' :: minutes))

/-- How the reading of a clock is written. -/
inductive ClockReading.Writes (reading : ClockReading) : List Char -> Prop where
  | intro {year month day hour minute second fraction offset : List Char}
      {separator : Char}
      (isYear : IsNumeral 4 reading.year year)
      (isMonth : IsNumeral 2 reading.month month)
      (isDay : IsNumeral 2 reading.day day)
      (isSeparator : separator = 'T' ∨ separator = 't' ∨ separator = ' ')
      (isHour : IsNumeral 2 reading.hour hour)
      (isMinute : IsNumeral 2 reading.minute minute)
      (isSecond : IsNumeral 2 reading.second second)
      (isFraction : WritesFraction reading.nanoseconds fraction)
      (isOffset : WritesOffset reading.offset offset) :
      Writes reading
        (year ++ '-' :: (month ++ '-' :: (day ++ separator ::
          (hour ++ ':' :: (minute ++ ':' :: (second ++ (fraction ++ offset)))))))

namespace Moment

variable {text rest : List Char}

theorem separator?_cons
    {separator : Char}
    (isSeparator : separator = 'T' ∨ separator = 't' ∨ separator = ' ')
    (rest : List Char) :
    separator? (separator :: rest) = some rest := by
  rcases isSeparator with rfl | rfl | rfl <;> rfl

theorem separator?_eq_some_iff :
    separator? text = some rest <->
      ∃ separator, (separator = 'T' ∨ separator = 't' ∨ separator = ' ') ∧
        text = separator :: rest := by
  constructor
  · intro read
    unfold separator? at read
    split at read
    · next c behind =>
        split at read
        · next isSeparator =>
            rw [Bool.or_eq_true, Bool.or_eq_true, beq_iff_eq, beq_iff_eq, beq_iff_eq,
              or_assoc] at isSeparator
            cases read
            exact ⟨c, isSeparator, rfl⟩
        · cases read
    · cases read
  · rintro ⟨separator, isSeparator, rfl⟩
    exact separator?_cons isSeparator rest

/-- A fraction that was read stands at the start of the text. -/
theorem writesFraction_of_nanoseconds?
    {nanoseconds : Nat}
    (read : nanoseconds? text = some (nanoseconds, rest)) :
    ∃ fraction, text = fraction ++ rest ∧ WritesFraction nanoseconds fraction := by
  unfold nanoseconds? at read
  split at read
  · next behind =>
      dsimp only at read
      split at read
      · cases read
      · next nonempty =>
          cases read
          refine ⟨'.' :: behind.takeWhile Char.isDigit, ?_, .digits ?_ ?_⟩
          · rw [List.cons_append, List.takeWhile_append_dropWhile]
          · simpa using nonempty
          · simp
  · cases read
    exact ⟨[], rfl, .none⟩

/-- A fraction is read up to a character that does not continue it. -/
theorem nanoseconds?_append
    {nanoseconds : Nat}
    {fraction : List Char}
    (written : WritesFraction nanoseconds fraction)
    {c : Char}
    (notDigit : c.isDigit = false)
    (notPoint : c ≠ '.')
    (rest : List Char) :
    nanoseconds? (fraction ++ c :: rest) = some (nanoseconds, c :: rest) := by
  cases written with
  | none =>
      unfold nanoseconds?
      split
      · next same => exact absurd (List.cons.inj same).1 notPoint
      · rfl
  | @digits digits nonempty isDigit =>
      have taken : (digits ++ c :: rest).takeWhile Char.isDigit = digits := by
        rw [List.takeWhile_append_of_pos (List.all_eq_true.mp isDigit)]
        simp [notDigit]
      have left : (digits ++ c :: rest).dropWhile Char.isDigit = c :: rest := by
        rw [List.dropWhile_append_of_pos (List.all_eq_true.mp isDigit)]
        simp [notDigit]
      rw [List.cons_append, nanoseconds?]
      simp [taken, left, nonempty]

theorem offsetSize?_eq_some_iff {size : Int} :
    offsetSize? text = some (size, rest) <->
      ∃ hour minute hours minutes,
        text = hours ++ ':' :: (minutes ++ rest) ∧ IsNumeral 2 hour hours ∧
          IsNumeral 2 minute minutes ∧ hour ≤ 23 ∧ minute ≤ 59 ∧
          size = ((hour * 60 + minute : Nat) : Int) * 60 := by
  constructor
  · intro read
    unfold offsetSize? at read
    simp only [Option.bind_eq_bind, Option.bind_eq_some_iff] at read
    obtain ⟨⟨hour, _⟩, hourRead, _, colon, ⟨minute, _⟩, minuteRead, within⟩ := read
    obtain ⟨hours, rfl, isHour⟩ := fixed?_eq_some_iff.mp hourRead
    cases mark?_eq_some_iff.mp colon
    obtain ⟨minutes, rfl, isMinute⟩ := fixed?_eq_some_iff.mp minuteRead
    split at within
    · next small =>
        simp only [Bool.and_eq_true, decide_eq_true_eq] at small
        obtain ⟨rfl, rfl⟩ := Prod.mk.inj (Option.some.inj within)
        exact ⟨hour, minute, hours, minutes, rfl, isHour, isMinute, small.1, small.2,
          Int.natCast_mul _ _⟩
    · cases within
  · rintro ⟨hour, minute, hours, minutes, rfl, isHour, isMinute, hourLe, minuteLe, rfl⟩
    simp [offsetSize?, fixed?_append isHour, fixed?_append isMinute, mark?, hourLe,
      minuteLe]

/-- An offset that was read stands at the start of the text. -/
theorem writesOffset_of_offset?
    {seconds : Int}
    (read : offset? text = some (seconds, rest)) :
    ∃ minutes offset, text = offset ++ rest ∧ WritesOffset minutes offset ∧
      seconds = minutes * 60 := by
  unfold offset? at read
  split at read
  · next c behind =>
      split at read
      · next isZ =>
          cases read
          rw [Bool.or_eq_true, beq_iff_eq, beq_iff_eq] at isZ
          exact ⟨0, [c], rfl, .universal isZ, rfl⟩
      · split at read
        · next isPlus =>
            obtain rfl := beq_iff_eq.mp isPlus
            obtain ⟨hour, minute, hours, minutes, rfl, isHour, isMinute, hourLe, minuteLe,
              rfl⟩ :=
              offsetSize?_eq_some_iff.mp read
            exact ⟨_, '+' :: (hours ++ ':' :: minutes), by simp,
              .ahead isHour isMinute hourLe minuteLe, rfl⟩
        · split at read
          · next isMinus =>
              rw [Bool.or_eq_true, beq_iff_eq, beq_iff_eq] at isMinus
              obtain ⟨⟨size, _⟩, sizeRead, same⟩ := Option.map_eq_some_iff.mp read
              obtain ⟨hour, minute, hours, minutes, rfl, isHour, isMinute, hourLe,
                minuteLe, rfl⟩ := offsetSize?_eq_some_iff.mp sizeRead
              cases same
              exact ⟨_, c :: (hours ++ ':' :: minutes), by simp,
                .behind isMinus isHour isMinute hourLe minuteLe, (Int.neg_mul _ _).symm⟩
          · cases read
  · cases read

theorem offset?_minus
    {sign : Char}
    (isMinus : sign = '-' ∨ sign = '−')
    (rest : List Char) :
    offset? (sign :: rest) = (offsetSize? rest).map fun read => (-read.1, read.2) := by
  rcases isMinus with rfl | rfl <;> rfl

theorem offset?_of_writesOffset
    {minutes : Int}
    {offset : List Char}
    (written : WritesOffset minutes offset) :
    offset? offset = some (minutes * 60, []) := by
  cases written with
  | universal isZ => rcases isZ with rfl | rfl <;> rfl
  | @ahead hour minute hours minutes isHour isMinute hourLe minuteLe =>
      have size : offsetSize? (hours ++ ':' :: minutes) =
          some (((hour * 60 + minute : Nat) : Int) * 60, []) :=
        offsetSize?_eq_some_iff.mpr
          ⟨hour, minute, hours, minutes, by simp, isHour, isMinute, hourLe, minuteLe, rfl⟩
      simpa [offset?] using size
  | @behind hour minute hours minutes sign isMinus isHour isMinute hourLe minuteLe =>
      have size : offsetSize? (hours ++ ':' :: minutes) =
          some (((hour * 60 + minute : Nat) : Int) * 60, []) :=
        offsetSize?_eq_some_iff.mpr
          ⟨hour, minute, hours, minutes, by simp, isHour, isMinute, hourLe, minuteLe, rfl⟩
      rw [offset?_minus isMinus, size, Option.map_some, Int.neg_mul]

/-- An offset starts with a character that continues no fraction. -/
theorem exists_cons_of_writesOffset
    {minutes : Int}
    {offset : List Char}
    (written : WritesOffset minutes offset) :
    ∃ c behind, offset = c :: behind ∧ c.isDigit = false ∧ c ≠ '.' := by
  cases written with
  | universal isZ => rcases isZ with rfl | rfl <;> exact ⟨_, _, rfl, by decide, by decide⟩
  | ahead => exact ⟨_, _, rfl, by decide, by decide⟩
  | behind isMinus =>
      rcases isMinus with rfl | rfl <;> exact ⟨_, _, rfl, by decide, by decide⟩

/-- A leap second is read as the second before it. -/
theorem shownSecond_eq_min {second : Nat} (secondLe : second ≤ 60) :
    (if second == 60 then 59 else second) = min second 59 := by
  simp only [beq_iff_eq]
  split <;> omega

theorem writes_of_parse?
    {moment : Moment}
    (read : parse? text = some moment) :
    ∃ reading : ClockReading, reading.Writes text ∧ moment = reading.moment := by
  unfold parse? at read
  simp only [Option.bind_eq_bind, Option.bind_eq_some_iff] at read
  obtain ⟨⟨year, _⟩, yearRead, _, firstDash, ⟨month, _⟩, monthRead, _, secondDash,
    ⟨day, _⟩, dayRead, _, separatorRead, ⟨⟨hour, minute, second⟩, _⟩, clockRead,
    ⟨nanoseconds, _⟩, fractionRead, ⟨offset, rest⟩, offsetRead, days, dated, within⟩ :=
    read
  -- Every piece that was read stands at the start of what was left of the text.
  obtain ⟨yearText, rfl, isYear⟩ := fixed?_eq_some_iff.mp yearRead
  cases mark?_eq_some_iff.mp firstDash
  obtain ⟨monthText, rfl, isMonth⟩ := fixed?_eq_some_iff.mp monthRead
  cases mark?_eq_some_iff.mp secondDash
  obtain ⟨dayText, rfl, isDay⟩ := fixed?_eq_some_iff.mp dayRead
  obtain ⟨separator, isSeparator, rfl⟩ := separator?_eq_some_iff.mp separatorRead
  obtain ⟨hourText, minuteText, secondText, rfl, isHour, isMinute, isSecond⟩ :=
    clock?_eq_some_iff.mp clockRead
  obtain ⟨fraction, rfl, isFraction⟩ := writesFraction_of_nanoseconds? fractionRead
  obtain ⟨minutesAhead, offsetText, rfl, isOffset, rfl⟩ :=
    writesOffset_of_offset? offsetRead
  obtain ⟨isDate, rfl⟩ := dayNumber?_eq_some_iff.mp dated
  split at within
  · next valid =>
      simp only [Bool.and_eq_true, List.isEmpty_iff, decide_eq_true_eq] at valid
      obtain ⟨⟨⟨rfl, hourLe⟩, minuteLe⟩, secondLe⟩ := valid
      rw [List.append_nil]
      refine ⟨⟨year, month, day, hour, minute, second, nanoseconds, minutesAhead, isDate,
        hourLe, minuteLe, secondLe⟩,
        .intro isYear isMonth isDay isSeparator isHour isMinute isSecond
        isFraction isOffset, ?_⟩
      cases within
      rw [ClockReading.moment, ClockReading.localSeconds, shownSecond_eq_min secondLe,
        Int.natCast_add, Int.add_sub_assoc, Int.add_sub_assoc]
      simp only [beq_iff_eq]
  · cases within

theorem parse?_of_writes
    {reading : ClockReading}
    (written : reading.Writes text) :
    parse? text = some reading.moment := by
  cases written with
  | @intro yearText monthText dayText hourText minuteText secondText fraction offsetText
      separator
      isYear isMonth isDay isSeparator isHour isMinute isSecond isFraction isOffset =>
    obtain ⟨c, behind, starts, notDigit, notPoint⟩ := exists_cons_of_writesOffset isOffset
    have fractionRead : nanoseconds? (fraction ++ offsetText) =
        some (reading.nanoseconds, offsetText) := by
      rw [starts]
      exact nanoseconds?_append isFraction notDigit notPoint behind
    have dated := dayNumber?_eq_some_iff.mpr ⟨reading.isDate, rfl⟩
    have valid : ([] : List Char).isEmpty && reading.hour ≤ 23 && reading.minute ≤ 59 &&
        reading.second ≤ 60 := by
      simp [reading.hour_le, reading.minute_le, reading.second_le]
    unfold parse?
    simp only [Option.bind_eq_bind]
    rw [fixed?_append isYear, Option.bind_some, mark?_eq_some_iff.mpr rfl,
      Option.bind_some, fixed?_append isMonth, Option.bind_some,
      mark?_eq_some_iff.mpr rfl, Option.bind_some, fixed?_append isDay, Option.bind_some,
      separator?_cons isSeparator, Option.bind_some,
      clock?_append isHour isMinute isSecond, Option.bind_some, fractionRead,
      Option.bind_some, offset?_of_writesOffset isOffset, Option.bind_some, dated,
      Option.bind_some, if_pos valid, shownSecond_eq_min reading.second_le]
    rw [ClockReading.moment, ClockReading.localSeconds]
    simp only [beq_iff_eq, Option.pure_def]

/-- The texts from which a moment is read are those that write the reading of a clock at
that moment. -/
theorem parse?_eq_some_iff {moment : Moment} :
    parse? text = some moment <->
      ∃ reading : ClockReading, reading.Writes text ∧ moment = reading.moment := by
  refine ⟨writes_of_parse?, ?_⟩
  rintro ⟨reading, written, rfl⟩
  exact parse?_of_writes written

end Moment
end Release
end FlemishDesk
