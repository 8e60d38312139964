import BlockCustody.Proofs.Json.Grammar
import BlockCustody.Proofs.Json.TextOf
import Mathlib.Tactic.IntervalCases

/-!
Contract: numbers and quoted texts are read from end to end.

Owns:
- the parts of a number, each up to what does not prolong it;
- that written whole numbers stand for themselves, as far as 64 bits hold them;
- that a quoted text stands for the characters it spells, and which one is written.

Does not own: what floating-point number a text stands for.
-/

namespace BlockCustody.Json

open Grammar

/-! ## Parts of numbers -/

/-- What stands here does not prolong digits in front of it. -/
def StopsDigits (text : List Char) : Prop :=
  ∀ next ∈ text.head?, next.isDigit = false

theorem StopsNumber.stopsDigits {text : List Char} (stops : StopsNumber text) :
    StopsDigits text := by
  cases text with
  | nil => exact nofun
  | cons next others =>
      rintro _ ⟨⟩
      exact stops.1

theorem stopsDigits_cons {next : Char} (noDigit : next.isDigit = false) (others : List Char) :
    StopsDigits (next :: others) := by
  rintro _ ⟨⟩
  exact noDigit

section Parts

variable {text rest : List Char}

theorem digits_append (allDigits : ∀ digit ∈ text, digit.isDigit = true)
    (stops : StopsDigits rest) : digits (text ++ rest) = .ok (text, rest) := by
  have noneFollows : rest.takeWhile Char.isDigit = [] ∧ rest.dropWhile Char.isDigit = rest := by
    cases rest with
    | nil => exact ⟨rfl, rfl⟩
    | cons next others => simp [stops next rfl]
  rw [digits, List.takeWhile_append_of_pos allDigits, List.dropWhile_append_of_pos allDigits,
    noneFollows.1, noneFollows.2, List.append_nil]

theorem Grammar.Digits.exists_cons (isDigits : Digits text) :
    ∃ first others, text = first :: others ∧ first.isDigit = true := by
  obtain ⟨first, others, rfl⟩ := List.exists_cons_of_ne_nil isDigits.1
  exact ⟨first, others, rfl, isDigits.2 first List.mem_cons_self⟩

theorem someDigits_append (isDigits : Digits text) (stops : StopsDigits rest) (atEnd : Fault) :
    someDigits atEnd (text ++ rest) = .ok (text, rest) := by
  have areRead := digits_append isDigits.2 stops
  obtain ⟨first, others, rfl, isDigit⟩ := isDigits.exists_cons
  rw [List.cons_append] at areRead ⊢
  rw [someDigits, if_pos isDigit, areRead]

theorem wholeDigits_append (isWhole : Whole text) (stops : StopsDigits rest) (atEnd : Fault) :
    wholeDigits atEnd (text ++ rest) = .ok (text, rest) := by
  obtain ⟨isDigits, onlyZero⟩ := isWhole
  have areRead := someDigits_append isDigits stops atEnd
  obtain ⟨first, others, rfl, _⟩ := isDigits.exists_cons
  by_cases isZero : first = '0'
  · subst isZero
    obtain ⟨rfl⟩ : others = [] := by simpa using onlyZero rfl
    cases rest with
    | nil => rfl
    | cons next others => simp [wholeDigits, stops next rfl]
  · rw [List.cons_append] at areRead ⊢
    unfold wholeDigits
    split
    · next isNil => cases isNil
    · next zeroFirst =>
        injection zeroFirst with zeroFirst
        exact absurd zeroFirst isZero
    · exact areRead

theorem fractionDigits_append (isFraction : Fraction text) (stops : StopsDigits rest)
    (noPoint : rest.head? ≠ some '.') (atEnd : Fault) :
    ∃ digits, fractionDigits atEnd (text ++ rest) = .ok (digits, rest) := by
  cases isFraction with
  | none =>
      refine ⟨[], ?_⟩
      rw [List.nil_append]
      unfold fractionDigits
      split
      · exact absurd rfl noPoint
      · rfl
  | some isDigits => exact ⟨_, someDigits_append isDigits stops atEnd⟩

theorem exponentPart_none (notLetter : ∀ next ∈ rest.head?, ¬ (next = 'e' ∨ next = 'E'))
    (atEnd : Fault) : exponentPart atEnd rest = .ok (none, rest) := by
  cases rest with
  | nil => rfl
  | cons next others => simp only [exponentPart, if_neg (notLetter next rfl)]

theorem StopsNumber.notLetter (stops : StopsNumber rest) :
    ∀ next ∈ rest.head?, ¬ (next = 'e' ∨ next = 'E') := by
  cases rest with
  | nil => exact nofun
  | cons next others =>
      rintro _ ⟨⟩
      exact not_or.mpr ⟨stops.2.2.1, stops.2.2.2⟩

theorem exponentPart_append (isExponent : Exponent text) (stops : StopsNumber rest)
    (atEnd : Fault) : ∃ exponent, exponentPart atEnd (text ++ rest) = .ok (exponent, rest) := by
  cases isExponent with
  | none => exact ⟨none, exponentPart_none stops.notLetter atEnd⟩
  | @some letter sign digits isLetter isSign isDigits =>
      have areRead := someDigits_append isDigits stops.stopsDigits atEnd
      rw [List.cons_append, List.append_assoc]
      rcases isSign with rfl | rfl | rfl
      · -- Digits right behind the letter are no sign.
        obtain ⟨first, others, rfl, isDigit⟩ := isDigits.exists_cons
        refine ⟨some (false, first :: others), ?_⟩
        simp only [exponentPart, if_pos isLetter, List.nil_append, List.cons_append]
        split
        · next isPlus =>
            injection isPlus with isPlus
            subst isPlus
            exact absurd isDigit (by decide)
        · next isMinus =>
            injection isMinus with isMinus
            subst isMinus
            exact absurd isDigit (by decide)
        · simp only [FrontReader.bind_apply]
          rw [← List.cons_append, areRead]
          rfl
      · refine ⟨some (false, digits), ?_⟩
        simp only [exponentPart, if_pos isLetter, List.cons_append, List.nil_append,
          FrontReader.bind_apply, areRead]
        rfl
      · refine ⟨some (true, digits), ?_⟩
        simp only [exponentPart, if_pos isLetter, List.cons_append, List.nil_append,
          FrontReader.bind_apply, areRead]
        rfl

/-- Neither a fraction nor an exponent begins with a digit, or the latter with a point. -/
theorem stopsDigits_of_exponent (isExponent : Exponent text) (stops : StopsNumber rest) :
    StopsDigits (text ++ rest) ∧ (text ++ rest).head? ≠ some '.' := by
  cases isExponent with
  | none =>
      refine ⟨stops.stopsDigits, ?_⟩
      cases rest with
      | nil => exact nofun
      | cons next others =>
          rintro ⟨⟩
          exact stops.2.1 rfl
  | some isLetter isSign isDigits =>
      rcases isLetter with rfl | rfl <;>
        exact ⟨stopsDigits_cons (by decide) _, by simp⟩

theorem stopsDigits_of_fraction (isFraction : Fraction text) (stops : StopsDigits rest) :
    StopsDigits (text ++ rest) := by
  cases isFraction with
  | none => exact stops
  | some isDigits => exact stopsDigits_cons (by decide) _

theorem numberText_append (isNumber : Unsigned text) (stops : StopsNumber rest)
    (atEnd : Fault) : ∃ number, numberText atEnd (text ++ rest) = .ok (number, rest) := by
  cases isNumber with
  | @parts whole fraction exponent isWhole isFraction isExponent =>
      obtain ⟨afterFraction, noPoint⟩ := stopsDigits_of_exponent isExponent stops
      have afterWhole := stopsDigits_of_fraction isFraction afterFraction
      obtain ⟨fractionRead, isFractionRead⟩ :=
        fractionDigits_append isFraction afterFraction noPoint atEnd
      obtain ⟨exponentRead, isExponentRead⟩ := exponentPart_append isExponent stops atEnd
      refine ⟨{ whole, fraction := fractionRead, exponent := exponentRead }, ?_⟩
      simp only [numberText, List.append_assoc, FrontReader.bind_apply,
        wholeDigits_append isWhole afterWhole, isFractionRead, isExponentRead]
      rfl

end Parts

/-! ## Numbers -/

theorem valueOf_writeNatural (value : Nat) : valueOf (writeNatural value) = value := by
  have sameStep : ∀ digits : List Char, valueOf digits = Nat.ofDigitChars 10 digits 0 := by
    intro digits
    simp only [valueOf, digitValue, Nat.ofDigitChars, Nat.mul_comm 10]
    rfl
  rw [sameStep, writeNatural, Nat.ofDigitChars_toDigits (by decide) (by decide)]

theorem isDigit_of_mem_writeNatural {value : Nat} {digit : Char}
    (member : digit ∈ writeNatural value) : digit.isDigit = true :=
  Nat.isDigit_of_mem_toDigits (by decide) (by decide) member

theorem exists_isDigit_writeNatural (value : Nat) :
    ∃ first others, writeNatural value = first :: others ∧ first.isDigit = true := by
  obtain ⟨first, others, isWritten⟩ : ∃ first others, writeNatural value = first :: others :=
    List.exists_cons_of_ne_nil Nat.toDigits_ne_nil
  have isDigit : first.isDigit = true :=
    isDigit_of_mem_writeNatural (isWritten ▸ List.mem_cons_self)
  exact ⟨first, others, isWritten, isDigit⟩

/-- The first digit is a zero for zero alone. The induction takes the last digit off. -/
theorem exists_writeNatural_eq_cons {value : Nat} (positive : 0 < value) :
    ∃ first others, writeNatural value = first :: others ∧ first ≠ '0' := by
  induction value using Nat.strongRecOn with
  | ind value inductionHypothesis =>
      rw [writeNatural, Nat.toDigits_eq_if (by decide)]
      split
      · next single =>
          refine ⟨_, [], rfl, ?_⟩
          interval_cases value <;> decide
      · next several =>
          have fewer : value / 10 < value := Nat.div_lt_self positive (by decide)
          have stillPositive : 0 < value / 10 := by omega
          obtain ⟨first, others, isWritten, notZero⟩ :=
            inductionHypothesis (value / 10) fewer stillPositive
          rw [writeNatural] at isWritten
          exact ⟨first, _, by rw [isWritten]; rfl, notZero⟩

theorem whole_writeNatural (value : Nat) : Whole (writeNatural value) := by
  refine ⟨⟨Nat.toDigits_ne_nil, fun _ => isDigit_of_mem_writeNatural⟩, ?_⟩
  intro zeroFirst
  rcases Nat.eq_zero_or_pos value with rfl | positive
  · rfl
  · obtain ⟨first, others, isWritten, notZero⟩ := exists_writeNatural_eq_cons positive
    rw [isWritten] at zeroFirst
    exact absurd (Option.some.inj zeroFirst) notZero

/-- Without a point and an exponent behind them, digits are all of a number. -/
theorem numberText_writeNatural (value : Nat) {rest : List Char} (stops : StopsNumber rest)
    (atEnd : Fault) :
    numberText atEnd (writeNatural value ++ rest) =
      .ok ({ whole := writeNatural value, fraction := [], exponent := none }, rest) := by
  have noFraction : fractionDigits atEnd rest = .ok ([], rest) := by
    unfold fractionDigits
    split
    · exact absurd rfl stops.2.1
    · rfl
  simp only [numberText, FrontReader.bind_apply,
    wholeDigits_append (whole_writeNatural value) stops.stopsDigits, noFraction,
    exponentPart_none stops.notLetter]
  rfl

theorem number_of_isDigit {first : Char} (isDigit : first.isDigit = true) (rest : List Char) :
    number (first :: rest) =
      (do FrontReader.judge ((← numberText .endOfValue).value false)) (first :: rest) := by
  unfold number
  split
  · next isSign =>
      injection isSign with isSign
      subst isSign
      exact absurd isDigit (by decide)
  · rfl

/-- Digits that 64 bits hold are read as the whole number they were written for. -/
theorem number_writeNatural
    {value : Nat}
    (fits : value < 0x10000000000000000)
    {rest : List Char}
    (stops : StopsNumber rest) :
    number (writeNatural value ++ rest) = .ok (.whole value, rest) := by
  have isRead := numberText_writeNatural value stops .endOfValue
  obtain ⟨first, others, isWritten, isDigit⟩ := exists_isDigit_writeNatural value
  rw [isWritten, List.cons_append, number_of_isDigit isDigit, ← List.cons_append, ← isWritten]
  simp only [FrontReader.bind_apply, isRead, FrontReader.judge, NumberText.value,
    valueOf_writeNatural, decide_eq_true fits]
  rfl

/-- A natural number within the bounds of a kind is read back by it. -/
theorem integer_textOf
    {kind : IntegerKind}
    {value : Nat}
    (within : kind.least ≤ value ∧ (value : Int) ≤ kind.greatest)
    (fits : value < 0x10000000000000000) :
    TextOf (integer kind) (writeNatural value) value := by
  obtain ⟨first, others, isWritten, isDigit⟩ := exists_isDigit_writeNatural value
  have notBlank : isBlank first = false := isBlank_of_isDigit isDigit
  refine ⟨?_, ?_⟩
  · rw [isWritten]
    refine ⟨notBlank, ?_, ?_⟩ <;> (rintro rfl; exact absurd isDigit (by decide))
  · intro rest stops
    have isNumber := number_writeNatural fits stops
    have starts : startsNumber first = true := by
      rw [startsNumber, isDigit, Bool.or_true]
    rw [isWritten, List.cons_append] at isNumber ⊢
    simp only [integer, skipBlanks_cons notBlank, if_pos starts, isNumber, if_pos within]

theorem number_writeNatural_of_neg
    {value : Nat}
    (positive : 0 < value)
    (fits : value ≤ 0x8000000000000000)
    {rest : List Char}
    (stops : StopsNumber rest) :
    number ('-' :: (writeNatural value ++ rest)) = .ok (.whole (-value), rest) := by
  have isRead := numberText_writeNatural value stops .endOfValue
  have small : value < 0x10000000000000000 := Nat.lt_of_le_of_lt fits (by decide)
  simp only [number, FrontReader.bind_apply, isRead, FrontReader.judge, NumberText.value,
    valueOf_writeNatural, decide_eq_true small, positive, fits]
  rfl

/-- So is a negative number. -/
theorem integer_textOf_neg
    {kind : IntegerKind}
    {value : Nat}
    (positive : 0 < value)
    (within : kind.least ≤ -(value : Int) ∧ -(value : Int) ≤ kind.greatest)
    (fits : value ≤ 0x8000000000000000) :
    TextOf (integer kind) ('-' :: writeNatural value) (-value) := by
  have notBlank : isBlank '-' = false := by decide
  have starts : startsNumber '-' = true := by decide
  refine ⟨⟨notBlank, by decide, by decide⟩, ?_⟩
  intro rest stops
  simp only [integer, List.cons_append, skipBlanks_cons notBlank, if_pos starts,
    number_writeNatural_of_neg positive fits stops, if_pos within]

/-- Whole numbers of either sign, as far as 64 bits hold them. -/
theorem integer_textOf_writeInteger
    {kind : IntegerKind}
    {value : Int}
    (within : kind.least ≤ value ∧ value ≤ kind.greatest)
    (fits : -0x8000000000000000 ≤ value ∧ value < 0x10000000000000000) :
    TextOf (integer kind) (writeInteger value) value := by
  by_cases negative : value < 0
  · have isNegated : value = -(value.natAbs : Int) := by omega
    rw [writeInteger, if_pos negative]
    rw [isNegated] at within
    have isText := integer_textOf_neg (Int.natAbs_pos.mpr (by omega)) within (by omega)
    rwa [← isNegated] at isText
  · have isSame : value = (value.natAbs : Int) := by omega
    rw [writeInteger, if_neg negative]
    rw [isSame] at within
    have isText := integer_textOf within (by omega)
    rwa [← isSame] at isText

/-! ## Texts -/

theorem hexValue?_hexDigit {value : Nat} (isDigit : value < 16) :
    hexValue? (hexDigit value) = some value := by
  interval_cases value <;> rfl

theorem fourDigits_of_number {first second third fourth : Char} {number : Nat}
    (isNumber : fourDigits? first second third fourth = some number) (rest : List Char) :
    fourDigits (first :: second :: third :: fourth :: rest) = .ok (number, rest) := by
  rw [fourDigits, isNumber]

/-- No character has the number of a surrogate. -/
theorem notSurrogate (character : Char) :
    isLeadingSurrogate character.toNat = false ∧ isTrailingSurrogate character.toNat = false := by
  have valid : character.toNat < 0xD800 ∨ 0xDFFF < character.toNat ∧ character.toNat < 0x110000 :=
    character.valid
  simp only [isLeadingSurrogate, isTrailingSurrogate, Bool.and_eq_false_iff,
    decide_eq_false_iff_not]
  omega

/-- With any limit that is large enough, and behind whatever was read before, the text is read
up to its closing quote. -/
def ReadAsQuoted (rest spelled text : List Char) : Prop :=
  ∀ limit read, spelled.length < limit →
    quotedFrom limit read (spelled ++ '"' :: rest) =
      .ok (String.ofList (read.reverse ++ text), rest)

section Quoted

variable {rest spelled text : List Char} {character : Char}

theorem ReadAsQuoted.plain (others : ReadAsQuoted rest spelled text)
    (isPlain : Plain character) :
    ReadAsQuoted rest (character :: spelled) (character :: text) := by
  obtain ⟨notQuote, notBackslash, notControl⟩ := isPlain
  intro limit read enough
  cases limit with
  | zero => cases enough
  | succ limit =>
      rw [List.cons_append, quotedFrom, if_neg notQuote, if_neg notBackslash,
        if_neg (Nat.not_lt.mpr notControl),
        others limit (character :: read) (Nat.lt_of_succ_lt_succ enough), List.reverse_cons,
        List.append_assoc, List.singleton_append]

/-- One escape is one character, whatever follows. -/
theorem ReadAsQuoted.escape
    (others : ReadAsQuoted rest spelled text)
    {escape : List Char}
    (isEscape : ∀ following,
      escapedCharacter (escape ++ following) = .ok (character, following)) :
    ReadAsQuoted rest ('\\' :: (escape ++ spelled)) (character :: text) := by
  have notQuote : '\\' ≠ '"' := by decide
  intro limit read enough
  cases limit with
  | zero => cases enough
  | succ limit =>
      rw [List.length_cons, List.length_append] at enough
      have fewer : spelled.length < limit := by omega
      simp only [List.cons_append, List.append_assoc, quotedFrom, if_neg notQuote, if_true,
        isEscape, others limit (character :: read) fewer, List.reverse_cons,
        List.nil_append]

end Quoted

theorem escapedCharacter_lettered {letter character : Char}
    (isEscape : lettered? letter = some character) (rest : List Char) :
    escapedCharacter ([letter] ++ rest) = .ok (character, rest) := by
  have notNumber : letter ≠ 'u' := by
    rintro rfl
    cases isEscape
  rw [List.singleton_append, escapedCharacter, if_neg notNumber, isEscape]

theorem escapedCharacter_numbered {first second third fourth character : Char}
    (isNumber : fourDigits? first second third fourth = some character.toNat)
    (rest : List Char) :
    escapedCharacter (['u', first, second, third, fourth] ++ rest) = .ok (character, rest) := by
  obtain ⟨notLeading, notTrailing⟩ := notSurrogate character
  simp only [escapedCharacter, List.cons_append, List.nil_append, if_true, numberedCharacter,
    FrontReader.bind_apply, fourDigits_of_number isNumber, notLeading, notTrailing,
    Bool.false_eq_true, if_false, Char.ofNat_toNat]
  rfl

theorem escapedCharacter_paired
    {first second third fourth fifth sixth seventh eighth character : Char}
    {leading trailing : Nat}
    (isLeading : fourDigits? first second third fourth = some leading)
    (isTrailing : fourDigits? fifth sixth seventh eighth = some trailing)
    (leads : isLeadingSurrogate leading = true)
    (trails : isTrailingSurrogate trailing = true)
    (isNumber : character.toNat = 0x10000 + (leading - 0xD800) * 0x400 + (trailing - 0xDC00))
    (rest : List Char) :
    escapedCharacter
        (['u', first, second, third, fourth, '\\', 'u', fifth, sixth, seventh, eighth] ++ rest) =
      .ok (character, rest) := by
  have notTrailing : isTrailingSurrogate leading = false := by
    simp only [isLeadingSurrogate, isTrailingSurrogate, Bool.and_eq_true, decide_eq_true_eq,
      Bool.and_eq_false_iff, decide_eq_false_iff_not] at leads ⊢
    omega
  simp only [escapedCharacter, List.cons_append, List.nil_append, if_true, numberedCharacter,
    FrontReader.bind_apply, fourDigits_of_number isLeading, notTrailing, leads,
    Bool.false_eq_true, if_false, furtherEscape, fourDigits_of_number isTrailing, trails,
    ← isNumber, Char.ofNat_toNat]
  rfl

/-- The induction is on the way the characters are spelled. -/
theorem readAsQuoted_of_spells {spelled text : List Char} (spells : Spells spelled text)
    (rest : List Char) : ReadAsQuoted rest spelled text := by
  induction spells with
  | done =>
      intro limit read enough
      cases limit with
      | zero => cases enough
      | succ limit => rw [List.append_nil]; rfl
  | plain isPlain others inductionHypothesis => exact inductionHypothesis.plain isPlain
  | lettered isEscape others inductionHypothesis =>
      exact inductionHypothesis.escape (escapedCharacter_lettered isEscape)
  | numbered isNumber others inductionHypothesis =>
      exact inductionHypothesis.escape (escapedCharacter_numbered isNumber)
  | paired isLeading isTrailing leads trails isNumber others inductionHypothesis =>
      exact inductionHypothesis.escape
        (escapedCharacter_paired isLeading isTrailing leads trails isNumber)

/-- Whatever a character is written as spells it. -/
theorem spells_writeCharacter {spelled text : List Char} (others : Spells spelled text)
    (character : Char) : Spells (writeCharacter character ++ spelled) (character :: text) := by
  unfold writeCharacter
  split_ifs with quote backslash backspace formFeed lineFeed carriageReturn tabulator control
  · subst quote; exact .lettered rfl others
  · subst backslash; exact .lettered rfl others
  · subst backspace; exact .lettered rfl others
  · subst formFeed; exact .lettered rfl others
  · subst lineFeed; exact .lettered rfl others
  · subst carriageReturn; exact .lettered rfl others
  · subst tabulator; exact .lettered rfl others
  · refine .numbered ?_ others
    have high : character.toNat / 16 < 16 := by omega
    have low : character.toNat % 16 < 16 := Nat.mod_lt _ (by decide)
    have zero : hexValue? '0' = some 0 := rfl
    have parts : character.toNat / 16 * 16 + character.toNat % 16 = character.toNat :=
      Nat.div_add_mod' _ _
    simp [fourDigits?, hexValue?_hexDigit high, hexValue?_hexDigit low, zero, parts]
  · exact .plain ⟨quote, backslash, Nat.le_of_not_lt control⟩ others

theorem spells_flatMap_writeCharacter (text : List Char) :
    Spells (text.flatMap writeCharacter) text := by
  induction text with
  | nil => exact .done
  | cons character others inductionHypothesis =>
      exact spells_writeCharacter inductionHypothesis character

/-- A quoted text behind its opening quote. -/
theorem quotedRest_of_spells {spelled : List Char} {text : String}
    (spells : Spells spelled text.toList) (rest : List Char) :
    quotedRest (spelled ++ '"' :: rest) = .ok (text, rest) := by
  have enough : spelled.length < (spelled ++ '"' :: rest).length := by
    rw [List.length_append, List.length_cons]
    omega
  rw [quotedRest, readAsQuoted_of_spells spells rest _ [] enough, List.reverse_nil,
    List.nil_append, String.ofList_toList]

theorem quotedRest_readsBack (text : String) :
    quotedRest.ReadsBack (text.toList.flatMap writeCharacter ++ ['"']) text := by
  intro rest
  rw [List.append_assoc, List.singleton_append,
    quotedRest_of_spells (spells_flatMap_writeCharacter text.toList)]

theorem opens_writeQuoted (text : String) : Opens (writeQuoted text) :=
  ⟨by decide, by decide, by decide⟩

theorem string_textOf_of_spells (expected : String) {spelled : List Char} {text : String}
    (spells : Spells spelled text.toList) :
    TextOf (string expected) ('"' :: (spelled ++ ['"'])) text := by
  have quote : isBlank '"' = false := by decide
  refine textOf_of_readsBack ⟨quote, by decide, by decide⟩ fun rest => ?_
  simp only [string, List.cons_append, List.append_assoc, List.nil_append,
    skipBlanks_cons quote, quotedRest_of_spells spells]

theorem string_textOf (expected text : String) :
    TextOf (string expected) (writeQuoted text) text :=
  string_textOf_of_spells expected (spells_flatMap_writeCharacter text.toList)

/-! ## Values, or nothing -/

theorem optional_textOf_none {α : Type} (reader : Reader α) :
    TextOf (Json.optional reader) writeNothing none :=
  textOf_of_readsBack ⟨by decide, by decide, by decide⟩ fun _ => rfl

/-- Only nothing begins as nothing does. -/
theorem optional_textOf_some {α : Type} {reader : Reader α} {first : Char} {others : List Char}
    {value : α} (isText : TextOf reader (first :: others) value) (isSomething : first ≠ 'n') :
    TextOf (Json.optional reader) (first :: others) (some value) where
  opens := isText.opens
  readsBack := by
    intro rest stops
    have isRead := isText.readsBack rest stops
    rw [List.cons_append] at isRead ⊢
    simp only [Json.optional, skipBlanks_cons isText.opens.1]
    split
    · next isNothing =>
        injection isNothing with isNothing
        exact absurd isNothing isSomething
    · rw [FrontReader.bind_apply, isRead]
      rfl

end BlockCustody.Json
