import BlockCustody.Calendar.TimestampText
import BlockCustody.Proofs.Calendar.CivilDate
import BlockCustody.Proofs.Calendar.Hours

/-!
Contract: timestamps read back as the instants they were written for.

Owns:
- reading of padded numbers, with or without a separator after them;
- reading of years, fractions and the mark of universal time as they are written;
- which instant the text of an instant names: itself, but for leap seconds inside a
  minute, which no text names.

Does not own: what other texts name.
-/

namespace BlockCustody

namespace Instant

open Calendar

/-- The instant that is named by the text of an instant. A leap second inside a minute is
written like the second after it. -/
def asWritten (instant : Instant) : Instant :=
  if inside : instant.InsideMinute then
    { seconds := instant.seconds + 1
      nanos := instant.nanos - nanosPerSecond
      inRange := by
        have range := instant.inRange
        have notLast := inside.2
        simp only [firstSecond, lastSecond] at *
        omega
      nanosFit := Nat.lt_of_le_of_lt (Nat.sub_le _ _) instant.nanosFit }
  else instant

variable {instant : Instant}

theorem asWritten_of_insideMinute (inside : instant.InsideMinute) :
    instant.asWritten.seconds = instant.seconds + 1 ∧
      instant.asWritten.nanos = instant.nanos - nanosPerSecond := by
  rw [asWritten, dif_pos inside]
  exact ⟨rfl, rfl⟩

theorem asWritten_eq_self_iff : instant.asWritten = instant ↔ ¬ instant.InsideMinute := by
  constructor
  · intro same inside
    have later := (asWritten_of_insideMinute inside).1
    rw [same] at later
    omega
  · intro notInside
    rw [asWritten, dif_neg notInside]

theorem not_insideMinute_asWritten (instant : Instant) : ¬ instant.asWritten.InsideMinute := by
  by_cases inside : instant.InsideMinute
  · have fit := instant.nanosFit
    rintro ⟨isLeap, _⟩
    rw [(asWritten_of_insideMinute inside).2] at isLeap
    simp only [nanosPerSecond] at *
    omega
  · rwa [asWritten_eq_self_iff.mpr inside]

end Instant

namespace Calendar.Timestamp

/-! ## Digits -/

/-- No digit stands in front, so that a run of digits ends before it. -/
def StopsDigits (rest : List Char) : Prop :=
  ∀ first ∈ rest.head?, first.isDigit = false

theorem stopsDigits_cons {first : Char} (notDigit : first.isDigit = false) (rest : List Char) :
    StopsDigits (first :: rest) := by
  intro found isFirst
  cases isFirst
  exact notDigit

theorem le_ofDigitChars (digits : List Char) (value : Nat) :
    value ≤ Nat.ofDigitChars 10 digits value := by
  induction digits generalizing value with
  | nil => simp
  | cons digit others inductionHypothesis =>
      rw [Nat.ofDigitChars_cons]
      have larger := inductionHypothesis (10 * value + (digit.toNat - '0'.toNat))
      omega

/-- A run of digits is read to its end, which is where the limit is reached or
where no digit follows. -/
theorem digitsFrom_append
    {digits rest : List Char}
    {limit value : Nat}
    (allDigits : ∀ digit ∈ digits, digit.isDigit = true)
    (withinLimit : digits.length ≤ limit)
    (stops : digits.length = limit ∨ StopsDigits rest)
    (fits : Nat.ofDigitChars 10 digits value < 0x8000000000000000) :
    digitsFrom limit value (digits ++ rest) = .ok (Nat.ofDigitChars 10 digits value, rest) := by
  induction digits generalizing limit value with
  | nil =>
      rw [List.nil_append, Nat.ofDigitChars_nil]
      cases limit with
      | zero => simp [digitsFrom]
      | succ limit =>
          have stopsHere : StopsDigits rest := stops.resolve_left (by simp)
          cases rest with
          | nil => rfl
          | cons first others => simp [digitsFrom, stopsHere first rfl]
  | cons digit others inductionHypothesis =>
      cases limit with
      | zero => simp at withinLimit
      | succ limit =>
          have isDigit : digit.isDigit = true := allDigits digit List.mem_cons_self
          have othersDigits : ∀ other ∈ others, other.isDigit = true :=
            fun other member => allDigits other (List.mem_cons_of_mem _ member)
          have sameValue : value * 10 + (digit.toNat - 48) = 10 * value + (digit.toNat - '0'.toNat) :=
            by rw [Nat.mul_comm]; rfl
          rw [Nat.ofDigitChars_cons] at fits ⊢
          have small : ¬ 0x8000000000000000 ≤ 10 * value + (digit.toNat - '0'.toNat) :=
            Nat.not_le.mpr (Nat.lt_of_le_of_lt (le_ofDigitChars others _) fits)
          have othersRead :=
            inductionHypothesis othersDigits (Nat.le_of_succ_le_succ withinLimit)
              (stops.imp_left Nat.succ.inj) fits
          simp only [List.cons_append, digitsFrom, isDigit, if_true, sameValue, if_neg small]
          exact othersRead

/-! ## Padded numbers -/

theorem isDigit_of_mem_padded
    {width value : Nat}
    {character : Char}
    (member : character ∈ padded width value) :
    character.isDigit = true := by
  rcases List.mem_append.mp member with zero | digit
  · rw [(List.mem_replicate.mp zero).2]
    decide
  · exact Nat.isDigit_of_mem_toDigits (by decide) (by decide) digit

theorem ofDigitChars_padded (width value : Nat) :
    Nat.ofDigitChars 10 (padded width value) 0 = value := by
  simp [padded, Nat.ofDigitChars_append]

theorem length_padded (width value : Nat) :
    (padded width value).length = max width (Nat.toDigits 10 value).length := by
  simp only [padded, List.length_append, List.length_replicate]
  omega

theorem length_padded_of_lt {width value : Nat} (fits : value < powerOfTen width)
    (positive : 0 < width) :
    (padded width value).length = width := by
  have digits : (Nat.toDigits 10 value).length ≤ width :=
    (Nat.length_toDigits_le_iff (by decide) positive).mpr fits
  rw [length_padded, Nat.max_eq_left digits]

theorem exists_padded_eq_cons (width value : Nat) :
    ∃ first others, padded width value = first :: others ∧ first.isDigit = true := by
  have positive : 0 < (padded width value).length := by
    have digits : 0 < (Nat.toDigits 10 value).length := Nat.length_toDigits_pos
    rw [length_padded]
    omega
  obtain ⟨first, others, isPadded⟩ := List.exists_cons_of_length_pos positive
  have member : first ∈ padded width value := by
    rw [isPadded]
    exact List.mem_cons_self
  exact ⟨first, others, isPadded, isDigit_of_mem_padded member⟩

/-- A padded number is read back, either because the limit is its width or
because no digit follows. -/
theorem number_padded
    {limit width value : Nat}
    {rest : List Char}
    (withinLimit : (padded width value).length ≤ limit)
    (stops : (padded width value).length = limit ∨ StopsDigits rest)
    (fits : value < 0x8000000000000000) :
    number limit (padded width value ++ rest) = .ok (value, rest) := by
  have digitsRead :
      digitsFrom limit 0 (padded width value ++ rest) =
        .ok (Nat.ofDigitChars 10 (padded width value) 0, rest) :=
    digitsFrom_append (fun _ member => isDigit_of_mem_padded member) withinLimit stops
      (by rwa [ofDigitChars_padded])
  rw [ofDigitChars_padded] at digitsRead
  obtain ⟨first, others, isPadded, isDigit⟩ := exists_padded_eq_cons width value
  rw [isPadded, List.cons_append] at digitsRead ⊢
  simp [number, isDigit, digitsRead]

theorem number_padded_of_lt
    {width value : Nat}
    {rest : List Char}
    (positive : 0 < width)
    (fits : value < powerOfTen width)
    (small : value < 0x8000000000000000) :
    number width (padded width value ++ rest) = .ok (value, rest) := by
  have exactly := length_padded_of_lt fits positive
  exact number_padded (Nat.le_of_eq exactly) (Or.inl exactly) small

/-! ## Parts of a timestamp -/

theorem dropBlanks_cons_of_not_blank
    {first : Char}
    (notBlank : isBlank first = false)
    (rest : List Char) :
    dropBlanks (first :: rest) = first :: rest := by
  simp [dropBlanks, notBlank]

theorem not_isBlank_of_isDigit {character : Char} (isDigit : character.isDigit = true) :
    isBlank character = false := by
  have bounds : 48 ≤ character.toNat ∧ character.toNat ≤ 57 := by
    simp only [Char.isDigit, Bool.and_eq_true, decide_eq_true_eq, ge_iff_le,
      UInt32.le_iff_toNat_le] at isDigit
    exact isDigit
  simp only [isBlank, Bool.or_eq_false_iff, Bool.and_eq_false_iff, decide_eq_false_iff_not]
  omega

theorem dropBlanks_padded (width value : Nat) (rest : List Char) :
    dropBlanks (padded width value ++ rest) = padded width value ++ rest := by
  obtain ⟨first, others, isPadded, isDigit⟩ := exists_padded_eq_cons width value
  rw [isPadded, List.cons_append]
  exact dropBlanks_cons_of_not_blank (not_isBlank_of_isDigit isDigit) _

theorem boundedNumber_padded
    {low high value : Nat}
    (inBounds : low ≤ value ∧ value ≤ high)
    (twoDigits : high < 100)
    (rest : List Char) :
    boundedNumber 2 low high (padded 2 value ++ rest) = .ok (value, rest) := by
  have fits : value < powerOfTen 2 := Nat.lt_of_le_of_lt inBounds.2 twoDigits
  have small : value < 0x8000000000000000 :=
    Nat.lt_trans (Nat.lt_of_le_of_lt inBounds.2 twoDigits) (by decide)
  have notOutside : ¬ (value < low ∨ high < value) := by
    omega
  have isRead : number 2 (padded 2 value ++ rest) = .ok (value, rest) :=
    number_padded_of_lt (by decide) fits small
  simp only [boundedNumber, dropBlanks_padded, isRead]
  simp only [bind, Except.bind, if_neg notOutside]
  rfl

theorem separator_cons
    {mark : Char}
    (notBlank : isBlank mark = false)
    (rest : List Char) :
    separator mark (mark :: rest) = .ok rest := by
  simp [separator, dropBlanks_cons_of_not_blank notBlank]

theorem padded_append_ne_cons
    {sign : Char}
    (notDigit : sign.isDigit = false)
    (width value : Nat)
    (rest unsigned : List Char) :
    padded width value ++ rest ≠ sign :: unsigned := by
  obtain ⟨first, others, isPadded, isDigit⟩ := exists_padded_eq_cons width value
  intro same
  rw [isPadded, List.cons_append] at same
  injection same with isSign
  rw [isSign, notDigit] at isDigit
  cases isDigit

/-- A signed number of any length is read back up to the separator. -/
theorem number_signed
    {value : Nat}
    (small : value < 0x8000000000000000)
    (rest : List Char) :
    number (padded 4 value ++ '-' :: rest).length (padded 4 value ++ '-' :: rest) =
      .ok (value, '-' :: rest) :=
  number_padded (by simp) (Or.inr (stopsDigits_cons (by decide) rest)) small

theorem year_yearText
    {value : Int}
    (inRange : -300000 ≤ value ∧ value ≤ 300000)
    (rest : List Char) :
    year (yearText value ++ '-' :: rest) = .ok (value, '-' :: rest) := by
  have notOutside : ¬ (value < -2147483648 ∨ 2147483647 < value) := by
    omega
  have small : value.natAbs < 0x8000000000000000 := by
    omega
  unfold yearText
  split
  · next plain =>
      have isRead :
          number 4 (padded 4 value.toNat ++ '-' :: rest) = .ok (value.toNat, '-' :: rest) :=
        number_padded_of_lt (by decide) (by change value.toNat < 10000; omega) (by omega)
      have sameValue : (value.toNat : Int) = value := by
        omega
      unfold year
      simp only [dropBlanks_padded]
      split
      · next unsigned signed => exact absurd signed (padded_append_ne_cons (by decide) _ _ _ _)
      · next unsigned signed => exact absurd signed (padded_append_ne_cons (by decide) _ _ _ _)
      · rw [isRead]
        simp only [bind, Except.bind, pure, Except.pure, sameValue, if_neg notOutside]
  · next signed =>
      have isRead := number_signed small rest
      split
      · next negative =>
          have sameValue : -(value.natAbs : Int) = value := by
            omega
          unfold year
          rw [List.cons_append, dropBlanks_cons_of_not_blank (by decide)]
          simp only [isRead, bind, Except.bind, pure, Except.pure, sameValue, if_neg notOutside]
      · next positive =>
          have sameValue : (value.natAbs : Int) = value := by
            omega
          unfold year
          rw [List.cons_append, dropBlanks_cons_of_not_blank (by decide)]
          simp only [isRead, bind, Except.bind, pure, Except.pure, sameValue, if_neg notOutside]

/-- Digits after the point, in front of the mark of universal time, count from
the tenth of a second on. -/
theorem fraction_padded
    {width value : Nat}
    (positive : 0 < width)
    (withinNine : width ≤ 9)
    (fits : value < powerOfTen width)
    (small : value < 0x8000000000000000) :
    fraction ('.' :: (padded width value ++ ['Z'])) =
      .ok (value * powerOfTen (9 - width), ['Z']) := by
  have exactly := length_padded_of_lt fits positive
  have isRead : number 9 (padded width value ++ ['Z']) = .ok (value, ['Z']) :=
    number_padded (by omega) (Or.inr (stopsDigits_cons (by decide) [])) small
  have digitCount : (padded width value ++ ['Z']).length - (['Z'] : List Char).length = width := by
    rw [List.length_append, exactly, Nat.add_sub_cancel]
  have markStays : (['Z'] : List Char).dropWhile Char.isDigit = ['Z'] := by
    decide
  simp only [fraction, isRead, bind, Except.bind, pure, Except.pure, digitCount, markStays]

/-- A fraction in as few digits as say it is read back, and none is zero. -/
theorem fraction_fractionText {nanos : Nat} (isFraction : nanos < nanosPerSecond) :
    fraction (fractionText nanos ++ ['Z']) = .ok (nanos, ['Z']) := by
  simp only [nanosPerSecond] at isFraction
  unfold fractionText
  split
  · next none =>
      rw [none]
      rfl
  · split
    · next millis =>
        have isRead :=
          fraction_padded (show 0 < 3 by decide) (by decide)
            (show nanos / 1000000 < powerOfTen 3 by change _ < 1000; omega) (by omega)
        rw [List.cons_append, isRead]
        change Except.ok (nanos / 1000000 * 1000000, ['Z']) = _
        rw [Nat.div_mul_cancel (Nat.dvd_of_mod_eq_zero millis)]
    · split
      · next micros =>
          have isRead :=
            fraction_padded (show 0 < 6 by decide) (by decide)
              (show nanos / 1000 < powerOfTen 6 by change _ < 1000000; omega) (by omega)
          rw [List.cons_append, isRead]
          change Except.ok (nanos / 1000 * 1000, ['Z']) = _
          rw [Nat.div_mul_cancel (Nat.dvd_of_mod_eq_zero micros)]
      · have isRead :=
          fraction_padded (show 0 < 9 by decide) (by decide)
            (show nanos < powerOfTen 9 from isFraction) (by omega)
        rw [List.cons_append, isRead]
        change Except.ok (nanos * 1, ['Z']) = _
        rw [Nat.mul_one]

theorem offset_universal : offset ['Z'] = .ok (0, []) := by
  have notSpelledOut : (String.ofList ['Z']).toUpper ≠ "UTC" := by
    decide +kernel
  unfold offset
  change (if (String.ofList ['Z']).toUpper = "UTC" then _ else _) = _
  rw [if_neg notSpelledOut]
  rfl

/-! ## Whole timestamps -/

/-- The fields an instant is written with. A leap second is second 60. -/
def fieldsOf (instant : Instant) : Fields :=
  let timeOfDay := instant.secondOfDay.toNat
  { date := CivilDate.ofDays (instant.seconds / secondsPerDay)
    hour := timeOfDay / 3600
    minute := timeOfDay / 60 % 60
    second := timeOfDay % 60 + (if nanosPerSecond ≤ instant.nanos then 1 else 0)
    nanos :=
      if nanosPerSecond ≤ instant.nanos then instant.nanos - nanosPerSecond
      else instant.nanos
    offset := 0 }

theorem chars_eq (instant : Instant) :
    chars instant =
      yearText (fieldsOf instant).date.year ++
        '-' :: (padded 2 (fieldsOf instant).date.month ++
          '-' :: (padded 2 (fieldsOf instant).date.day ++
            'T' :: (padded 2 (fieldsOf instant).hour ++
              ':' :: (padded 2 (fieldsOf instant).minute ++
                ':' :: (padded 2 (fieldsOf instant).second ++
                  (fractionText (fieldsOf instant).nanos ++ ['Z'])))))) := by
  simp [chars, fieldsOf]

theorem secondOfDay_bounds (instant : Instant) :
    0 ≤ instant.secondOfDay ∧ instant.secondOfDay < 86400 := by
  simp only [Instant.secondOfDay, secondsPerDay]
  omega

/-- All fields of an instant keep to the bounds under which they are read. -/
theorem fieldsOf_bounds (instant : Instant) :
    (fieldsOf instant).hour ≤ 23 ∧ (fieldsOf instant).minute ≤ 59 ∧
      (fieldsOf instant).second ≤ 60 ∧ (fieldsOf instant).nanos < nanosPerSecond := by
  have ofDay := secondOfDay_bounds instant
  have fit := instant.nanosFit
  simp only [fieldsOf]
  refine ⟨by omega, by omega, ?_, ?_⟩
  · split <;> omega
  · split <;> omega

theorem daysInMonth_le (year : Int) (month : Nat) : daysInMonth year month ≤ 31 := by
  unfold daysInMonth
  split
  · split <;> decide
  all_goals decide

theorem date_fieldsOf_bounds (instant : Instant) :
    (-300000 ≤ (fieldsOf instant).date.year ∧ (fieldsOf instant).date.year ≤ 300000) ∧
      (1 ≤ (fieldsOf instant).date.month ∧ (fieldsOf instant).date.month ≤ 12) ∧
      (1 ≤ (fieldsOf instant).date.day ∧ (fieldsOf instant).date.day ≤ 31) := by
  obtain ⟨monthLow, monthHigh, dayLow, dayHigh⟩ :=
    CivilDate.exists_ofDays (instant.seconds / secondsPerDay)
  have range := instant.inRange
  simp only [firstSecond, lastSecond] at range
  refine ⟨?_, ⟨monthLow, monthHigh⟩, dayLow, Nat.le_trans dayHigh (daysInMonth_le _ _)⟩
  apply CivilDate.year_ofDays_bounds <;> simp only [secondsPerDay] <;> omega

theorem fields_chars (instant : Instant) : fields (chars instant) = .ok (fieldsOf instant) := by
  obtain ⟨yearBounds, monthBounds, dayBounds⟩ := date_fieldsOf_bounds instant
  obtain ⟨hourBound, minuteBound, secondBound, nanosBound⟩ := fieldsOf_bounds instant
  have monthRead := boundedNumber_padded monthBounds (by decide)
  have dayRead := boundedNumber_padded dayBounds (by decide)
  have hourRead := boundedNumber_padded ⟨Nat.zero_le _, hourBound⟩ (by decide)
  have minuteRead := boundedNumber_padded ⟨Nat.zero_le _, minuteBound⟩ (by decide)
  have secondRead := boundedNumber_padded ⟨Nat.zero_le _, secondBound⟩ (by decide)
  have dashRead := separator_cons (show isBlank '-' = false by decide)
  have colonRead := separator_cons (show isBlank ':' = false by decide)
  rw [chars_eq, fields, year_yearText yearBounds]
  simp only [bind, Except.bind, pure, Except.pure, true_or, if_true, dashRead, colonRead,
    monthRead, dayRead, hourRead, minuteRead, secondRead, fraction_fractionText nanosBound,
    offset_universal]
  rfl

/-- A leap second inside a minute has the fields of the instant that its text names. -/
theorem fieldsOf_asWritten (instant : Instant) : fieldsOf instant.asWritten = fieldsOf instant := by
  by_cases inside : instant.InsideMinute
  · obtain ⟨nextSecond, lessNanos⟩ := Instant.asWritten_of_insideMinute inside
    obtain ⟨isLeap, notLast⟩ := inside
    have fit := instant.nanosFit
    have ofDay := secondOfDay_bounds instant
    have noLeap : ¬ nanosPerSecond ≤ instant.nanos - nanosPerSecond := by
      omega
    -- The minute has a further second, so the day, the hour and the minute stay the same.
    have sameDay : (instant.seconds + 1) / secondsPerDay = instant.seconds / secondsPerDay := by
      simp only [secondsPerDay]
      omega
    have nextOfDay : instant.asWritten.secondOfDay.toNat = instant.secondOfDay.toNat + 1 := by
      simp only [Instant.secondOfDay, nextSecond, secondsPerDay] at *
      omega
    have insideMinute : instant.secondOfDay.toNat % 60 ≠ 59 := by
      simp only [Instant.secondOfDay, secondsPerDay] at *
      omega
    simp only [fieldsOf, nextSecond, sameDay, nextOfDay, if_neg noLeap, if_pos isLeap, lessNanos,
      Fields.mk.injEq, true_and, and_true]
    omega
  · rw [Instant.asWritten_eq_self_iff.mpr inside]

section NotInsideMinute

variable {instant : Instant} (notInside : ¬ instant.InsideMinute)

include notInside

/-- A leap second, and nothing else, is written as second 60. -/
theorem second_fieldsOf_eq_iff :
    (fieldsOf instant).second = 60 ↔ nanosPerSecond ≤ instant.nanos := by
  have ofDay := secondOfDay_bounds instant
  simp only [fieldsOf, Instant.InsideMinute, Instant.secondOfDay, secondsPerDay] at *
  constructor
  · intro last
    split at last <;> omega
  · intro leap
    rw [if_pos leap]
    omega

theorem clock_fieldsOf :
    (fieldsOf instant).date.toDays * secondsPerDay + (fieldsOf instant).hour * 3600 +
          (fieldsOf instant).minute * 60 +
        ((if (fieldsOf instant).second = 60 then 59 else (fieldsOf instant).second : Nat) : Int) =
      instant.seconds ∧
    (if (fieldsOf instant).second = 60 then (fieldsOf instant).nanos + nanosPerSecond
      else (fieldsOf instant).nanos) = instant.nanos := by
  have ofDay := secondOfDay_bounds instant
  have days := CivilDate.toDays_ofDays (instant.seconds / secondsPerDay)
  by_cases leap : nanosPerSecond ≤ instant.nanos
  · have last := (second_fieldsOf_eq_iff notInside).mpr leap
    rw [if_pos last, if_pos last]
    simp only [fieldsOf, if_pos leap, days, Instant.InsideMinute, Instant.secondOfDay,
      secondsPerDay] at *
    omega
  · have notLast := mt (second_fieldsOf_eq_iff notInside).mp leap
    rw [if_neg notLast, if_neg notLast]
    simp only [fieldsOf, if_neg leap, days, Instant.secondOfDay, secondsPerDay, and_true] at *
    omega

theorem instant_fieldsOf : (fieldsOf instant).instant = .ok instant := by
  obtain ⟨secondsBack, nanosBack⟩ := clock_fieldsOf notInside
  have dateExists : (fieldsOf instant).date.Exists :=
    CivilDate.exists_ofDays (instant.seconds / secondsPerDay)
  have inRange : ¬ (instant.seconds < firstSecond ∨ lastSecond < instant.seconds) := by
    have range := instant.inRange
    omega
  have isInstant : Instant.of? instant.seconds instant.nanos = some instant :=
    Instant.of?_eq_some_iff.mpr ⟨⟨rfl, rfl⟩, notInside⟩
  have noOffset : (fieldsOf instant).offset = 0 := rfl
  have offsetInRange : ¬ ((0 : Int) ≤ -secondsPerDay ∨ secondsPerDay ≤ 0) := by
    decide
  simp only [Fields.instant, dateExists, not_true_eq_false, if_false, secondsBack, nanosBack,
    noOffset, if_neg inRange, if_neg offsetInRange, Int.sub_zero, isInstant]
  rfl

end NotInsideMinute

theorem render_asWritten (instant : Instant) : render instant.asWritten = render instant := by
  rw [render, render, chars_eq, chars_eq, fieldsOf_asWritten]

/-- The text of an instant is read back as that instant, or as the one after it where a
leap second inside a minute was written. -/
theorem read_render (instant : Instant) : read (render instant) = .ok instant.asWritten := by
  rw [← render_asWritten]
  unfold read render
  rw [String.toList_ofList, fields_chars]
  exact instant_fieldsOf (Instant.not_insideMinute_asWritten instant)

theorem exists_of?_of_fields {fields : Fields} {instant : Instant}
    (isNamed : fields.instant = .ok instant) :
    ∃ seconds nanos, Instant.of? seconds nanos = some instant := by
  simp only [Fields.instant, bind, Except.bind, pure, Except.pure, throw, throwThe,
    MonadExceptOf.throw] at isNamed
  -- Only the last of its checks gives an instant.
  repeat' split at isNamed
  all_goals cases isNamed
  all_goals exact ⟨_, _, ‹_›⟩

/-- No text names a leap second inside a minute. -/
theorem not_insideMinute_of_read {text : String} {instant : Instant}
    (isRead : read text = .ok instant) : ¬ instant.InsideMinute := by
  unfold read at isRead
  cases found : fields text.toList with
  | error fault =>
      rw [found] at isRead
      cases isRead
  | ok named =>
      rw [found] at isRead
      obtain ⟨_, _, isInstant⟩ := exists_of?_of_fields isRead
      exact (Instant.of?_eq_some_iff.mp isInstant).2

end Calendar.Timestamp

end BlockCustody
