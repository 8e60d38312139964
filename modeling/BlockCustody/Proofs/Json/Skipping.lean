import BlockCustody.Proofs.Json.Blanks
import BlockCustody.Proofs.Json.Composite

/-!
Contract: any value of the grammar is passed over, and nothing behind it.

Owns:
- quoted texts, numbers, lists and objects, nested to any depth;
- that the limits on the number of values are never reached.

Does not own: values that somebody asked for.
-/

namespace BlockCustody.Json

open Grammar

/-! ## Quoted texts -/

theorem skipEscape_lettered {letter : Char} (isEscape : (lettered? letter).isSome = true)
    (rest : List Char) : skipEscape (letter :: rest) = .ok ((), rest) := by
  have notNumber : letter ≠ 'u' := by
    rintro rfl
    cases isEscape
  rw [skipEscape, if_neg notNumber, if_pos isEscape]

theorem skipEscape_numbered {first second third fourth : Char}
    (isNumber : (fourDigits? first second third fourth).isSome = true) (rest : List Char) :
    skipEscape ('u' :: first :: second :: third :: fourth :: rest) = .ok ((), rest) := by
  obtain ⟨number, isNumber⟩ := Option.isSome_iff_exists.mp isNumber
  rw [skipEscape, if_pos rfl, FrontReader.bind_apply, fourDigits_of_number isNumber]
  rfl

/-- The induction is on what stands between the quotes, an escape at a time. -/
theorem skipQuotedFrom_of_quoted {text : List Char} (isQuoted : Quoted text) {limit : Nat}
    (enough : text.length < limit) (rest : List Char) :
    skipQuotedFrom limit (text ++ '"' :: rest) = .ok ((), rest) := by
  have escapeStarts : '\\' ≠ '"' := by decide
  induction isQuoted generalizing limit with
  | done =>
      cases limit with
      | zero => cases enough
      | succ limit => rfl
  | plain isPlain others inductionHypothesis =>
      obtain ⟨notQuote, notBackslash, notControl⟩ := isPlain
      cases limit with
      | zero => cases enough
      | succ limit =>
          rw [List.cons_append, skipQuotedFrom, if_neg notQuote, if_neg notBackslash,
            if_neg (Nat.not_lt.mpr notControl),
            inductionHypothesis (Nat.lt_of_succ_lt_succ enough)]
  | lettered isEscape others inductionHypothesis =>
      cases limit with
      | zero => cases enough
      | succ limit =>
          simp only [List.length_cons] at enough
          simp only [List.cons_append, skipQuotedFrom, if_neg escapeStarts, if_true,
            skipEscape_lettered isEscape]
          exact inductionHypothesis (by omega)
  | numbered isNumber others inductionHypothesis =>
      cases limit with
      | zero => cases enough
      | succ limit =>
          simp only [List.length_cons] at enough
          simp only [List.cons_append, skipQuotedFrom, if_neg escapeStarts, if_true,
            skipEscape_numbered isNumber]
          exact inductionHypothesis (by omega)

theorem skipQuoted_of_quoted {text : List Char} (isQuoted : Quoted text) (rest : List Char) :
    skipQuoted (text ++ '"' :: rest) = .ok ((), rest) := by
  refine skipQuotedFrom_of_quoted isQuoted ?_ rest
  rw [List.length_append, List.length_cons]
  omega

/-! ## Values -/

/-- A text that opens a value is passed over by itself, whenever there are twice as many
values left as it has characters. -/
structure PassedOver (text : List Char) : Prop where
  opens : Opens text
  skipped : ∀ limit, 2 * text.length ≤ limit → ∀ rest, StopsNumber rest →
    skipValueWithin limit (text ++ rest) = .ok ((), rest)

theorem Opens.length_pos {text : List Char} (opens : Opens text) : 0 < text.length := by
  cases text with
  | nil => exact opens.elim
  | cons first others => exact Nat.zero_lt_succ _

/-- Most values need not be looked at with more than one step. -/
theorem passedOver_of_succ {text : List Char} (opens : Opens text)
    (skipped : ∀ limit, 2 * text.length ≤ limit + 1 → ∀ rest, StopsNumber rest →
      skipValueWithin (limit + 1) (text ++ rest) = .ok ((), rest)) : PassedOver text where
  opens := opens
  skipped := by
    intro limit enough rest stops
    cases limit with
    | zero =>
        have someText := opens.length_pos
        omega
    | succ limit => exact skipped limit enough rest stops

theorem skipValueWithin_of_isDigit {first : Char} (isDigit : first.isDigit = true) (limit : Nat)
    (rest : List Char) :
    skipValueWithin (limit + 1) (first :: rest) =
      (do let _ ← numberText .invalidNumber) (first :: rest) := by
  simp only [skipValueWithin, skipBlanks_cons (isBlank_of_isDigit isDigit)]
  split
  case h_1 => next isNil => cases isNil
  case h_9 =>
    next isCons =>
      cases isCons
      rw [if_pos isDigit]
  all_goals
    next isMark =>
      injection isMark with isMark
      subst isMark
      exact absurd isDigit (by decide)

theorem skipNumber_of_unsigned {text rest : List Char} (isNumber : Unsigned text)
    (stops : StopsNumber rest) :
    (do let _ ← numberText .invalidNumber : Reader Unit) (text ++ rest) = .ok ((), rest) := by
  obtain ⟨number, isRead⟩ := numberText_append isNumber stops .invalidNumber
  rw [FrontReader.bind_apply, isRead]
  rfl

theorem Grammar.Unsigned.exists_cons {text : List Char} (isNumber : Unsigned text) :
    ∃ first others, text = first :: others ∧ first.isDigit = true := by
  cases isNumber with
  | parts isWhole _ _ =>
      obtain ⟨first, others, rfl, isDigit⟩ := isWhole.1.exists_cons
      exact ⟨first, _, rfl, isDigit⟩

theorem opens_of_isDigit {first : Char} (isDigit : first.isDigit = true) (rest : List Char) :
    Opens (first :: rest) := by
  refine ⟨isBlank_of_isDigit isDigit, ?_, ?_⟩ <;> (rintro rfl; exact absurd isDigit (by decide))

theorem passedOver_of_unsigned {text : List Char} (isNumber : Unsigned text) :
    PassedOver text := by
  obtain ⟨first, others, rfl, isDigit⟩ := isNumber.exists_cons
  refine passedOver_of_succ (opens_of_isDigit isDigit others) ?_
  intro limit _ rest stops
  rw [List.cons_append, skipValueWithin_of_isDigit isDigit, ← List.cons_append,
    skipNumber_of_unsigned isNumber stops]

theorem passedOver_of_unsigned_of_neg {text : List Char} (isNumber : Unsigned text) :
    PassedOver ('-' :: text) := by
  have notBlank : isBlank '-' = false := by decide
  refine passedOver_of_succ ⟨notBlank, by decide, by decide⟩ ?_
  intro limit _ rest stops
  simp only [List.cons_append, skipValueWithin, skipBlanks_cons notBlank]
  exact skipNumber_of_unsigned isNumber stops

theorem passedOver_of_quoted {text : List Char} (isQuoted : Quoted text) :
    PassedOver ('"' :: (text ++ ['"'])) := by
  have notBlank : isBlank '"' = false := by decide
  refine passedOver_of_succ ⟨notBlank, by decide, by decide⟩ ?_
  intro limit _ rest stops
  simp only [List.cons_append, List.append_assoc, List.nil_append, skipValueWithin,
    skipBlanks_cons notBlank, skipQuoted_of_quoted isQuoted]

/-! ## Lists and objects -/

section Pieces

variable {value piece : List Char} {mark : Char}

theorem Grammar.Blanks.skip_mark {blanks : List Char} (areBlanks : Blanks blanks)
    (isMark : mark = ',' ∨ mark = ']' ∨ mark = '}') (rest : List Char) :
    skipBlanks (blanks ++ mark :: rest) = mark :: rest := by
  rw [areBlanks.skip]
  rcases isMark with rfl | rfl | rfl <;> rfl

/-- A value is passed over with the blanks in front of it, up to those behind it. -/
theorem PassedOver.skipped_padded (passed : PassedOver value) (isPiece : Padded value piece)
    (isMark : mark = ',' ∨ mark = ']' ∨ mark = '}') {limit : Nat}
    (enough : 2 * piece.length ≤ limit) (rest : List Char) :
    ∃ after, Blanks after ∧
      skipValueWithin limit (piece ++ mark :: rest) = .ok ((), after ++ mark :: rest) := by
  cases isPiece with
  | @blanks before value after areBefore areAfter =>
      have stops := areAfter.stopsNumber (stopsNumber_mark isMark rest)
      have fewer : 2 * value.length ≤ limit := by
        simp only [List.length_append] at enough
        omega
      refine ⟨after, areAfter, ?_⟩
      rw [List.append_assoc, List.append_assoc,
        (skipValueWithin_ignoresBlanks limit).append areBefore,
        passed.skipped limit fewer _ stops]

/-- A member is passed over from behind its opening quote, up to the blanks behind it. -/
theorem PassedOver.skipped_member {name : Type} {isCalled : name} (passed : PassedOver value)
    (isPiece : Member (fun quoted _ => Quoted quoted) (isCalled, value) piece)
    (isMark : mark = ',' ∨ mark = ']' ∨ mark = '}') {limit : Nat}
    (enough : 2 * piece.length ≤ limit) (rest : List Char) :
    ∃ behindQuote after, Blanks after ∧
      skipBlanks (piece ++ mark :: rest) = '"' :: behindQuote ∧
      (do skipQuoted; colon; skipValueWithin limit : Reader Unit) behindQuote =
        .ok ((), after ++ mark :: rest) := by
  cases isPiece with
  | @blanks before quoted between afterColon value after _ areBefore isQuoted areBetween
      areAfterColon areAfter =>
      have stops := areAfter.stopsNumber (stopsNumber_mark isMark rest)
      have fewer : 2 * value.length ≤ limit := by
        simp only [List.length_append, List.length_cons] at enough
        omega
      refine ⟨quoted ++ '"' :: (between ++ ':' ::
        (afterColon ++ (value ++ (after ++ mark :: rest)))), after, areAfter, ?_, ?_⟩
      · simp only [List.append_assoc, List.cons_append, areBefore.skip]
        rfl
      · simp only [FrontReader.bind_apply, skipQuoted_of_quoted isQuoted,
          colon_ignoresBlanks.append areBetween, colon_cons,
          (skipValueWithin_ignoresBlanks limit).append areAfterColon,
          passed.skipped limit fewer _ stops]

end Pieces

/-- With a piece in front of it, a loop goes on behind a comma and ends with the closing mark. -/
def Passes (loop : Nat → Reader Unit) (closing : Char) (piece : List Char) : Prop :=
  ∀ limit, 2 * piece.length ≤ limit → ∀ rest,
    loop (limit + 1) (piece ++ ',' :: rest) = loop limit rest ∧
      loop (limit + 1) (piece ++ closing :: rest) = .ok ((), rest)

/-- The induction is on the pieces, of which there is one at least. -/
theorem passed_of_inside
    {part : Type}
    {IsPiece : part → List Char → Prop}
    {parts : List part}
    {inside : List Char}
    (isInside : Inside IsPiece parts inside)
    (someParts : parts ≠ [])
    {loop : Nat → Reader Unit}
    {closing : Char}
    (passes : ∀ part ∈ parts, ∀ piece, IsPiece part piece → Passes loop closing piece)
    {limit : Nat}
    (enough : 2 * inside.length < limit)
    (rest : List Char) :
    loop limit (inside ++ closing :: rest) = .ok ((), rest) := by
  induction isInside generalizing limit with
  | none areBlanks => exact absurd rfl someParts
  | last isPiece =>
      cases limit with
      | zero => cases enough
      | succ limit =>
          have passesHere := passes _ List.mem_cons_self _ isPiece
          exact (passesHere limit (Nat.le_of_lt_succ enough) rest).2
  | @more first next others piece behind isPiece areOthers inductionHypothesis =>
      cases limit with
      | zero => cases enough
      | succ limit =>
          simp only [List.length_append, List.length_cons] at enough
          have passesHere := passes first List.mem_cons_self piece isPiece
          rw [List.append_assoc, List.cons_append,
            (passesHere limit (by omega) (behind ++ closing :: rest)).1]
          exact inductionHypothesis (List.cons_ne_nil _ _)
            (fun part isThere => passes part (List.mem_cons_of_mem _ isThere)) (by omega)

theorem passes_padded {value piece : List Char} (passed : PassedOver value)
    (isPiece : Padded value piece) : Passes skipItemsWithin ']' piece := by
  intro limit enough rest
  constructor
  · obtain ⟨after, areAfter, isSkipped⟩ :=
      passed.skipped_padded isPiece (.inl rfl) enough rest
    simp only [skipItemsWithin, isSkipped, areAfter.skip_mark (.inl rfl)]
  · obtain ⟨after, areAfter, isSkipped⟩ :=
      passed.skipped_padded isPiece (.inr (.inl rfl)) enough rest
    simp only [skipItemsWithin, isSkipped, areAfter.skip_mark (.inr (.inl rfl))]

theorem passes_member {member : Unit × List Char} {piece : List Char}
    (passed : PassedOver member.2)
    (isPiece : Member (fun quoted _ => Quoted quoted) member piece) :
    Passes skipMembersWithin '}' piece := by
  intro limit enough rest
  constructor
  · obtain ⟨behindQuote, after, areAfter, isQuoted, isSkipped⟩ :=
      passed.skipped_member isPiece (.inl rfl) enough rest
    simp only [skipMembersWithin, isQuoted, isSkipped, areAfter.skip_mark (.inl rfl)]
  · obtain ⟨behindQuote, after, areAfter, isQuoted, isSkipped⟩ :=
      passed.skipped_member isPiece (.inr (.inr rfl)) enough rest
    simp only [skipMembersWithin, isQuoted, isSkipped, areAfter.skip_mark (.inr (.inr rfl))]

theorem Grammar.Inside.exists_piece {part : Type} {IsPiece : part → List Char → Prop}
    {first : part} {others : List part} {inside : List Char}
    (isInside : Inside IsPiece (first :: others) inside) :
    ∃ piece behind, IsPiece first piece ∧ inside = piece ++ behind := by
  cases isInside with
  | last isPiece => exact ⟨inside, [], isPiece, (List.append_nil inside).symm⟩
  | more isPiece areOthers => exact ⟨_, _, isPiece, rfl⟩

theorem passedOver_list {items : List (List Char)} {inside : List Char}
    (isInside : Inside Padded items inside) (areValues : ∀ item ∈ items, PassedOver item) :
    PassedOver ('[' :: (inside ++ [']'])) := by
  have notBlank : isBlank '[' = false := by decide
  refine passedOver_of_succ ⟨notBlank, by decide, by decide⟩ ?_
  intro limit enough rest stops
  simp only [List.length_cons, List.length_append, List.length_nil] at enough
  simp only [List.cons_append, List.append_assoc, List.nil_append, skipValueWithin,
    skipBlanks_cons notBlank]
  cases items with
  | nil =>
      cases isInside with
      | none areBlanks => simp only [areBlanks.skip_mark (.inr (.inl rfl))]
  | cons first others =>
      have isSkipped := passed_of_inside isInside (List.cons_ne_nil _ _)
        (fun item isThere _ => passes_padded (areValues item isThere))
        (show 2 * inside.length < limit by omega) rest
      rw [← skipItemsWithin_ignoresBlanks] at isSkipped
      -- The first item opens, so this is not the end of the list.
      obtain ⟨_, behind, ⟨areBefore, _⟩, rfl⟩ := isInside.exists_piece
      have opens := (areValues first List.mem_cons_self).opens
      simp only [List.append_assoc, areBefore.skip, skipBlanks_of_opens opens] at isSkipped ⊢
      split
      · next isNil => rw [List.append_eq_nil_iff.mp isNil |>.1] at opens; exact opens.elim
      · next isEnd =>
          cases first with
          | nil => exact opens.elim
          | cons mark marks =>
              injection isEnd with isEnd
              exact absurd isEnd opens.2.2
      · exact isSkipped

theorem passedOver_object {members : List (Unit × List Char)} {inside : List Char}
    (isInside : Inside (Member fun quoted _ => Quoted quoted) members inside)
    (areValues : ∀ member ∈ members, PassedOver member.2) :
    PassedOver ('{' :: (inside ++ ['}'])) := by
  have notBlank : isBlank '{' = false := by decide
  refine passedOver_of_succ ⟨notBlank, by decide, by decide⟩ ?_
  intro limit enough rest stops
  simp only [List.length_cons, List.length_append, List.length_nil] at enough
  simp only [List.cons_append, List.append_assoc, List.nil_append, skipValueWithin,
    skipBlanks_cons notBlank]
  cases members with
  | nil =>
      cases isInside with
      | none areBlanks => simp only [areBlanks.skip_mark (.inr (.inr rfl))]
  | cons first others =>
      have isSkipped := passed_of_inside isInside (List.cons_ne_nil _ _)
        (fun member isThere _ => passes_member (areValues member isThere))
        (show 2 * inside.length < limit by omega) rest
      rw [← skipMembersWithin_ignoresBlanks] at isSkipped
      obtain ⟨_, behind, ⟨areBefore, _⟩, rfl⟩ := isInside.exists_piece
      have quote : isBlank '"' = false := by decide
      simp only [List.append_assoc, List.cons_append, areBefore.skip, skipBlanks_cons quote]
        at isSkipped ⊢
      exact isSkipped

/-- The induction is on the way the value is built. -/
theorem passedOver_of_value {text : List Char} (isValue : Value text) : PassedOver text := by
  induction isValue with
  | null | true | false =>
      exact passedOver_of_succ ⟨by decide, by decide, by decide⟩ fun limit _ rest _ => rfl
  | positive isNumber => exact passedOver_of_unsigned isNumber
  | negative isNumber => exact passedOver_of_unsigned_of_neg isNumber
  | quoted isQuoted => exact passedOver_of_quoted isQuoted
  | list isInside _ inductionHypothesis => exact passedOver_list isInside inductionHypothesis
  | object isInside _ inductionHypothesis => exact passedOver_object isInside inductionHypothesis

/-- A value is passed over with all blanks in front of it. -/
theorem skipValue_of_value {text : List Char} (isValue : Value text) {blanks rest : List Char}
    (areBlanks : Blanks blanks) (stops : StopsNumber rest) :
    skipValue (blanks ++ (text ++ rest)) = .ok ((), rest) := by
  rw [skipValue, (skipValueWithin_ignoresBlanks _).append areBlanks]
  refine (passedOver_of_value isValue).skipped _ ?_ rest stops
  simp only [List.length_append]
  omega

end BlockCustody.Json
