import BlockCustody.Proofs.Sealing.Opening

/-!
Contract: which bytes open under a key, and to what.

Owns:
- which content can be sealed, and how long its sealed form is;
- the parts of all bytes that are long enough to open;
- that bytes open to the one content they are the sealed form of, and why others do not open;
- that no tag opens but the right one.

Does not own: that nobody without the key can make bytes that open.
-/

namespace BlockCustody.Sealing

variable {key : BlockKey} {nonce : Nonce} {content sealed : Bytes}

/-! ## Sealed forms -/

theorem sealUnder_eq_ok_iff :
    sealUnder key nonce content = .ok sealed ↔
      content.length / 64 < blockLimit ∧
        sealed =
          nonce.bytes ++ applyKeystream key nonce content ++
            tag key nonce (applyKeystream key nonce content) := by
  unfold sealUnder
  split
  · next tooLong => simp [Nat.not_lt.mpr tooLong]
  · next fits => simp [Nat.not_le.mp fits, eq_comm]

theorem exists_sealUnder_eq_ok_iff :
    (∃ sealed, sealUnder key nonce content = .ok sealed) ↔ content.length / 64 < blockLimit := by
  simp [sealUnder_eq_ok_iff]

theorem length_of_sealUnder (isSealed : sealUnder key nonce content = .ok sealed) :
    sealed.length = content.length + 40 := by
  obtain ⟨_, rfl⟩ := sealUnder_eq_ok_iff.mp isSealed
  simp only [List.length_append, nonce.length_bytes, length_applyKeystream, length_tag]
  omega

/-- A sealed form starts with the nonce it was made under. -/
theorem take_of_sealUnder (isSealed : sealUnder key nonce content = .ok sealed) :
    sealed.take 24 = nonce.bytes := by
  obtain ⟨_, rfl⟩ := sealUnder_eq_ok_iff.mp isSealed
  rw [List.append_assoc, ← nonce.length_bytes, List.take_left]

/-- A ciphertext is sealed to the bytes that it makes with the nonce and its tag. -/
theorem sealUnder_applyKeystream
    {ciphertext : Bytes}
    (fits : ciphertext.length / 64 < blockLimit) :
    sealUnder key nonce (applyKeystream key nonce ciphertext) =
      .ok (nonce.bytes ++ ciphertext ++ tag key nonce ciphertext) := by
  rw [sealUnder_eq_ok_iff, length_applyKeystream, applyKeystream_twice]
  exact ⟨fits, rfl⟩

/-- What a sealed form has before its tag. -/
theorem front_of_sealUnder (isSealed : sealUnder key nonce content = .ok sealed) :
    sealed.take (sealed.length - 16) = nonce.bytes ++ applyKeystream key nonce content := by
  obtain ⟨_, rfl⟩ := sealUnder_eq_ok_iff.mp isSealed
  rw [List.length_append, length_tag, Nat.add_sub_cancel, List.take_left]

theorem Nonce.eq_of_bytes_eq {first second : Nonce} (same : first.bytes = second.bytes) :
    first = second := by
  cases first
  cases second
  simpa using same

/-- Sealed forms that agree in all but the tag are the same. -/
theorem eq_of_front_eq
    {first second : Nonce}
    {content other sealed resealed : Bytes}
    (isSealed : sealUnder key first content = .ok sealed)
    (isResealed : sealUnder key second other = .ok resealed)
    (sameFront : sealed.take (sealed.length - 16) = resealed.take (resealed.length - 16)) :
    sealed = resealed := by
  have sameLength : first.bytes.length = second.bytes.length := by
    rw [first.length_bytes, second.length_bytes]
  rw [front_of_sealUnder isSealed, front_of_sealUnder isResealed] at sameFront
  obtain ⟨sameNonce, sameCiphertext⟩ := List.append_inj sameFront sameLength
  obtain ⟨_, rfl⟩ := sealUnder_eq_ok_iff.mp isSealed
  obtain ⟨_, rfl⟩ := sealUnder_eq_ok_iff.mp isResealed
  obtain rfl := Nonce.eq_of_bytes_eq sameNonce
  rw [sameCiphertext]

/-! ## Opening -/

theorem openSealed_of_short (short : sealed.length < 40) :
    openSealed key sealed = .error .tooShort := by
  unfold openSealed
  split
  · rfl
  · have shortBody : (sealed.drop 24).length < 16 := by
      rw [List.length_drop]
      omega
    exact if_pos shortBody

/-- Bytes that are long enough have a nonce in front and a tag at the end. -/
theorem exists_parts (longEnough : 40 ≤ sealed.length) :
    ∃ (nonce : Nonce) (ciphertext mark : Bytes),
      mark.length = 16 ∧ sealed = nonce.bytes ++ ciphertext ++ mark := by
  let nonce : Nonce :=
    { bytes := sealed.take 24
      length_bytes := by
        rw [List.length_take]
        omega }
  let body := sealed.drop 24
  have bodyLength : body.length = sealed.length - 24 := List.length_drop
  refine ⟨nonce, body.take (body.length - 16), body.drop (body.length - 16), ?_, ?_⟩
  · rw [List.length_drop]
    omega
  · rw [List.append_assoc, List.take_append_drop, List.take_append_drop]

/-- Bytes that are long enough are a sealed form, or they are not authentic. -/
theorem openSealed_cases (key : BlockKey) (longEnough : 40 ≤ sealed.length) :
    (∃ nonce content,
      sealUnder key nonce content = .ok sealed ∧ openSealed key sealed = .ok content) ∨
      openSealed key sealed = .error .notAuthentic := by
  obtain ⟨nonce, ciphertext, mark, length_mark, rfl⟩ := exists_parts longEnough
  rw [openSealed_parts key nonce ciphertext mark length_mark]
  split
  · exact Or.inr rfl
  · next fits =>
      split
      · next rightTag =>
          rw [← rightTag]
          exact Or.inl ⟨nonce, _, sealUnder_applyKeystream (Nat.not_le.mp fits), rfl⟩
      · exact Or.inr rfl

theorem openSealed_eq_tooShort_iff :
    openSealed key sealed = .error .tooShort ↔ sealed.length < 40 := by
  constructor
  · intro refused
    refine Nat.lt_of_not_le fun longEnough => ?_
    rcases openSealed_cases key longEnough with ⟨_, _, _, opened⟩ | notAuthentic
    · simp [opened] at refused
    · simp [notAuthentic] at refused
  · exact openSealed_of_short

/-- Bytes open to the content they are the sealed form of, and to nothing else. -/
theorem openSealed_eq_ok_iff :
    openSealed key sealed = .ok content ↔
      ∃ nonce : Nonce, nonce.bytes = sealed.take 24 ∧ sealUnder key nonce content = .ok sealed := by
  constructor
  · intro opened
    have longEnough : 40 ≤ sealed.length := by
      refine Nat.le_of_not_lt fun short => ?_
      simp [openSealed_of_short short] at opened
    rcases openSealed_cases key longEnough with ⟨nonce, found, isSealed, openedTo⟩ | notAuthentic
    · rw [openedTo] at opened
      cases opened
      exact ⟨nonce, (take_of_sealUnder isSealed).symm, isSealed⟩
    · simp [notAuthentic] at opened
  · rintro ⟨nonce, _, isSealed⟩
    exact openSealed_of_sealUnder isSealed

theorem openSealed_eq_notAuthentic_iff :
    openSealed key sealed = .error .notAuthentic ↔
      40 ≤ sealed.length ∧ ∀ nonce content, sealUnder key nonce content ≠ .ok sealed := by
  constructor
  · intro refused
    refine ⟨Nat.le_of_not_lt fun short => ?_, fun nonce content isSealed => ?_⟩
    · simp [openSealed_of_short short] at refused
    · simp [openSealed_of_sealUnder isSealed] at refused
  · rintro ⟨longEnough, noSealedForm⟩
    rcases openSealed_cases key longEnough with ⟨nonce, content, isSealed, _⟩ | notAuthentic
    · exact absurd isSealed (noSealedForm nonce content)
    · exact notAuthentic

/-- With any other tag the bytes do not open. -/
theorem openSealed_of_other_tag
    {other : Bytes}
    (opened : openSealed key sealed = .ok content)
    (sameLength : other.length = sealed.length)
    (sameFront : other.take (sealed.length - 16) = sealed.take (sealed.length - 16))
    (different : other ≠ sealed) :
    openSealed key other = .error .notAuthentic := by
  obtain ⟨nonce, _, isSealed⟩ := openSealed_eq_ok_iff.mp opened
  refine openSealed_eq_notAuthentic_iff.mpr ⟨?_, ?_⟩
  · rw [sameLength, length_of_sealUnder isSealed]
    exact Nat.le_add_left 40 _
  · intro otherNonce otherContent isOther
    rw [← sameLength] at sameFront
    exact different (eq_of_front_eq isOther isSealed (by rw [sameFront, sameLength]))

/-- Bytes are refused as too short exactly if they are shorter than a nonce and a tag. All
others open to the content that gives just these bytes when sealed under the nonce they
start with, and are not authentic if there is none. Content within the cipher's limit is
sealed, under any nonce, to bytes that open to it and are forty bytes longer; so it is under
its own nonce, and different contents are sealed to different bytes. Where bytes open, no
others with the same bytes before the tag do. -/
theorem bytes_open_to_exactly_what_they_seal (key : BlockKey) :
    (∀ sealed, openSealed key sealed = .error .tooShort ↔ sealed.length < 40) ∧
      (∀ sealed content, openSealed key sealed = .ok content ↔
        ∃ nonce : Nonce,
          nonce.bytes = sealed.take 24 ∧ sealUnder key nonce content = .ok sealed) ∧
      (∀ sealed, openSealed key sealed = .error .notAuthentic ↔
        40 ≤ sealed.length ∧ ∀ nonce content, sealUnder key nonce content ≠ .ok sealed) ∧
      (∀ nonce content,
        (∃ sealed, sealUnder key nonce content = .ok sealed) ↔
          content.length / 64 < blockLimit) ∧
      (∀ nonce content sealed,
        sealUnder key nonce content = .ok sealed ∨ sealContent key content = .ok sealed →
          openSealed key sealed = .ok content ∧ sealed.length = content.length + 40) ∧
      (∀ content other sealed,
        sealContent key content = .ok sealed → sealContent key other = .ok sealed →
          content = other) ∧
      ∀ sealed content other,
        openSealed key sealed = .ok content →
          other.length = sealed.length →
          other.take (sealed.length - 16) = sealed.take (sealed.length - 16) →
          other ≠ sealed →
            openSealed key other = .error .notAuthentic := by
  refine ⟨fun _ => openSealed_eq_tooShort_iff, fun _ _ => openSealed_eq_ok_iff,
    fun _ => openSealed_eq_notAuthentic_iff, fun _ _ => exists_sealUnder_eq_ok_iff, ?_, ?_, ?_⟩
  · rintro nonce content sealed (isSealed | isSealed)
    · exact ⟨openSealed_of_sealUnder isSealed, length_of_sealUnder isSealed⟩
    · exact ⟨openSealed_of_sealContent isSealed, length_of_sealUnder isSealed⟩
  · intro content other sealed isSealed otherSealed
    have opened := openSealed_of_sealContent isSealed
    rw [openSealed_of_sealContent otherSealed] at opened
    exact (Except.ok.inj opened).symm
  · intro sealed content other opened sameLength sameFront different
    exact openSealed_of_other_tag opened sameLength sameFront different

/-- Three bytes, sealed under a key of fives and a nonce of sixes. -/
def threeBytesSealed : Bytes :=
  List.replicate 24 6 ++
    [193, 83, 97, 106, 170, 208, 233, 77, 50, 141, 53, 74, 22, 240, 102, 241, 236, 240, 77]

theorem three_bytes_do_not_open_with_last_bit_turned :
    let key : BlockKey := { bytes := List.replicate 32 5, length_bytes := rfl }
    let nonce : Nonce := { bytes := List.replicate 24 6, length_bytes := rfl }
    let turned := threeBytesSealed.set 42 76
    sealUnder key nonce [1, 2, 3] = .ok threeBytesSealed ∧
      openSealed key threeBytesSealed = .ok [1, 2, 3] ∧
      threeBytesSealed.length = 43 ∧
      openSealed key turned = .error .notAuthentic ∧
      ∃ own, sealContent key [1, 2, 3] = .ok own ∧ openSealed key own = .ok [1, 2, 3] ∧
        ∀ other, sealContent key other = .ok own → other = [1, 2, 3] := by
  intro key nonce turned
  obtain ⟨_, _, _, sealable, opens, apart, otherTags⟩ := bytes_open_to_exactly_what_they_seal key
  have isSealed : sealUnder key nonce [1, 2, 3] = .ok threeBytesSealed :=
    sealUnder_eq_ok_iff.mpr ⟨by decide, by decide +kernel⟩
  obtain ⟨opened, length⟩ := opens nonce [1, 2, 3] threeBytesSealed (Or.inl isSealed)
  obtain ⟨own, isOwn⟩ := (sealable (contentNonce key [1, 2, 3]) [1, 2, 3]).mpr (by decide)
  have ownSealed : sealContent key [1, 2, 3] = .ok own := isOwn
  refine ⟨isSealed, opened, length, ?_, own, ownSealed,
    (opens nonce [1, 2, 3] own (Or.inr ownSealed)).1, ?_⟩
  · exact otherTags threeBytesSealed [1, 2, 3] turned opened (by decide) (by decide) (by decide)
  · intro other otherSealed
    exact apart other [1, 2, 3] own otherSealed ownSealed

end BlockCustody.Sealing
