import BlockCustody.Proofs.Text.Hex
import BlockCustody.Proofs.Text.Utf8

/-!
Contract: which texts are read as byte strings, and what is wrong with all others.

Owns:
- the digits of either case, as characters and as bytes of a text;
- that a text is read as the byte string its lowercase form is written for;
- that the leftmost byte that is no digit is the fault of an even number of bytes.

Does not own: what length a particular identifier must have.
-/

namespace BlockCustody.Text

namespace Hex

open Utf8 (ofByte)

/-! ## Digits -/

/-- The digits of either case. -/
def IsDigit (character : Char) : Prop :=
  '0' ≤ character ∧ character ≤ '9' ∨ 'a' ≤ character ∧ character ≤ 'f' ∨
    'A' ≤ character ∧ character ≤ 'F'

instance (character : Char) : Decidable (IsDigit character) :=
  inferInstanceAs (Decidable (_ ∨ _))

theorem IsDigit.ascii {character : Char} (isDigit : IsDigit character) :
    character.toNat < 128 := by
  have atMost : ∀ greatest : Char, character ≤ greatest → greatest.toNat < 128 →
      character.toNat < 128 :=
    fun greatest below small => Nat.lt_of_le_of_lt below small
  rcases isDigit with ⟨_, below⟩ | ⟨_, below⟩ | ⟨_, below⟩ <;> exact atMost _ below (by decide)

theorem digit_of_lt {half : UInt8} (small : half < 16) :
    (digit half).toNat < 128 ∧ (digit half).toLower = digit half := by
  have allHalves : ∀ half < 16,
      (digit (UInt8.ofNat half)).toNat < 128 ∧
        (digit (UInt8.ofNat half)).toLower = digit (UInt8.ofNat half) := by
    decide
  have thisHalf := allHalves half.toNat small
  rwa [UInt8.ofNat_toNat] at thisHalf

/-- What holds of each of the 256 bytes holds of all. -/
theorem forall_byte (property : UInt8 → Prop)
    (each : ∀ number < 256, property (UInt8.ofNat number)) (byte : UInt8) : property byte := by
  have thisByte := each byte.toNat byte.toNat_lt
  rwa [UInt8.ofNat_toNat] at thisByte

theorem digit_of_digitValue? {byte value : UInt8} (isRead : digitValue? byte = some value) :
    value < 16 ∧ (ofByte byte).toLower = digit value := by
  have allBytes : ∀ number < 256, ∀ found ∈ digitValue? (UInt8.ofNat number),
      found < 16 ∧ (ofByte (UInt8.ofNat number)).toLower = digit found := by
    decide +kernel
  exact forall_byte
    (fun byte => ∀ found ∈ digitValue? byte, found < 16 ∧ (ofByte byte).toLower = digit found)
    allBytes byte value isRead

theorem exists_digitValue? {byte : UInt8} (isDigit : IsDigit (ofByte byte).toLower) :
    ∃ value, digitValue? byte = some value := by
  have allBytes : ∀ number < 256, IsDigit (ofByte (UInt8.ofNat number)).toLower →
      (digitValue? (UInt8.ofNat number)).isSome = true := by
    decide +kernel
  exact Option.isSome_iff_exists.mp
    (forall_byte (fun byte => IsDigit (ofByte byte).toLower → (digitValue? byte).isSome = true)
      allBytes byte isDigit)

theorem isDigit_digit {half : UInt8} (small : half < 16) : IsDigit (digit half) := by
  have allHalves : ∀ half < 16, IsDigit (digit (UInt8.ofNat half)) := by decide
  have thisHalf := allHalves half.toNat small
  rwa [UInt8.ofNat_toNat] at thisHalf

theorem digit_injective {left right : UInt8} (leftSmall : left < 16) (rightSmall : right < 16)
    (same : digit left = digit right) : left = right := by
  have halvesOfHalf : ∀ half < 16,
      UInt8.ofNat half >>> 4 = 0 ∧ UInt8.ofNat half &&& 15 = UInt8.ofNat half := by decide
  have ofLeft := halvesOfHalf left.toNat leftSmall
  have ofRight := halvesOfHalf right.toNat rightSmall
  rw [UInt8.ofNat_toNat] at ofLeft ofRight
  exact eq_of_digits_eq (by rw [ofLeft.1, ofRight.1]) (by rw [ofLeft.2, ofRight.2, same])

/-- A digit is worth what its lowercase form is written for. -/
theorem digitValue?_eq_some_iff {byte value : UInt8} :
    digitValue? byte = some value ↔ value < 16 ∧ (ofByte byte).toLower = digit value := by
  constructor
  · exact digit_of_digitValue?
  · rintro ⟨small, isLowered⟩
    obtain ⟨found, isRead⟩ := exists_digitValue? (isLowered ▸ isDigit_digit small)
    obtain ⟨foundSmall, isFound⟩ := digit_of_digitValue? isRead
    rw [isRead, digit_injective foundSmall small (isFound.symm.trans isLowered)]

theorem digitValue?_eq_none_iff {byte : UInt8} :
    digitValue? byte = none ↔ ¬ IsDigit (ofByte byte) := by
  have allBytes : ∀ number < 256,
      digitValue? (UInt8.ofNat number) = none ↔ ¬ IsDigit (ofByte (UInt8.ofNat number)) := by
    decide +kernel
  exact forall_byte (fun byte => digitValue? byte = none ↔ ¬ IsDigit (ofByte byte)) allBytes byte

theorem isDigit_of_digitValue? {byte value : UInt8} (isRead : digitValue? byte = some value) :
    IsDigit (ofByte byte) := by
  apply Decidable.byContradiction
  intro noDigit
  rw [digitValue?_eq_none_iff.mpr noDigit] at isRead
  cases isRead

/-! ## Pairs of digits -/

/-- The lowercase forms of the bytes of a text, as characters. -/
def lowered (digits : Bytes) : List Char :=
  digits.map fun byte => (ofByte byte).toLower

theorem encodeChars_cons (byte : UInt8) (bytes : Bytes) :
    encodeChars (byte :: bytes) = digit (byte >>> 4) :: digit (byte &&& 15) :: encodeChars bytes :=
  rfl

theorem halves_of_byte (byte : UInt8) :
    byte >>> 4 < 16 ∧ byte &&& 15 < 16 ∧ (byte >>> 4) <<< 4 ||| (byte &&& 15) = byte := by
  have allBytes : ∀ number < 256,
      UInt8.ofNat number >>> 4 < 16 ∧ UInt8.ofNat number &&& 15 < 16 ∧
        (UInt8.ofNat number >>> 4) <<< 4 ||| (UInt8.ofNat number &&& 15) =
          UInt8.ofNat number := by
    decide +kernel
  exact forall_byte
    (fun byte => byte >>> 4 < 16 ∧ byte &&& 15 < 16 ∧
      (byte >>> 4) <<< 4 ||| (byte &&& 15) = byte) allBytes byte

theorem byte_of_halves {high low : UInt8} (highSmall : high < 16) (lowSmall : low < 16) :
    (high <<< 4 ||| low) >>> 4 = high ∧ (high <<< 4 ||| low) &&& 15 = low := by
  have allHalves : ∀ high < 16, ∀ low < 16,
      (UInt8.ofNat high <<< 4 ||| UInt8.ofNat low) >>> 4 = UInt8.ofNat high ∧
        (UInt8.ofNat high <<< 4 ||| UInt8.ofNat low) &&& 15 = UInt8.ofNat low := by
    decide +kernel
  have these := allHalves high.toNat highSmall low.toNat lowSmall
  rwa [UInt8.ofNat_toNat, UInt8.ofNat_toNat] at these

/-- The lowercase form of what is read is what the bytes read are written as. -/
theorem lowered_of_decodePairs {position : Nat} {decoded digits bytes : Bytes}
    (isRead : decodePairs position decoded digits = .ok bytes) :
    ∃ read, bytes = decoded.reverse ++ read ∧ lowered digits = encodeChars read := by
  fun_induction decodePairs position decoded digits with
  | case1 position decoded =>
      cases isRead
      exact ⟨[], (List.append_nil _).symm, rfl⟩
  | case2 => cases isRead
  | case3 => cases isRead
  | case4 => cases isRead
  | case5 position decoded high low rest highValue highRead lowValue lowRead
      inductionHypothesis =>
      obtain ⟨read, isBytes, restLowered⟩ := inductionHypothesis isRead
      obtain ⟨highSmall, highLowered⟩ := digitValue?_eq_some_iff.mp highRead
      obtain ⟨lowSmall, lowLowered⟩ := digitValue?_eq_some_iff.mp lowRead
      obtain ⟨highBack, lowBack⟩ := byte_of_halves highSmall lowSmall
      refine ⟨(highValue <<< 4 ||| lowValue) :: read, ?_, ?_⟩
      · rw [isBytes, List.reverse_cons, List.append_assoc, List.singleton_append]
      · rw [encodeChars_cons, highBack, lowBack, ← restLowered, ← highLowered, ← lowLowered]
        rfl

/-- The induction is on the bytes, which two digits each are read as. -/
theorem decodePairs_of_lowered {digits read : Bytes} (isWritten : lowered digits = encodeChars read)
    (position : Nat) (decoded : Bytes) :
    decodePairs position decoded digits = .ok (decoded.reverse ++ read) := by
  induction read generalizing digits position decoded with
  | nil =>
      have none : digits = [] := List.map_eq_nil_iff.mp isWritten
      rw [none, List.append_nil]
      rfl
  | cons byte others inductionHypothesis =>
      rw [encodeChars_cons] at isWritten
      obtain ⟨high, rest, rfl, highLowered, isWritten⟩ := List.map_eq_cons_iff.mp isWritten
      obtain ⟨low, rest, rfl, lowLowered, isWritten⟩ := List.map_eq_cons_iff.mp isWritten
      obtain ⟨highSmall, lowSmall, isByte⟩ := halves_of_byte byte
      have highRead := digitValue?_eq_some_iff.mpr ⟨highSmall, highLowered⟩
      have lowRead := digitValue?_eq_some_iff.mpr ⟨lowSmall, lowLowered⟩
      simp only [decodePairs, highRead, lowRead, isByte, inductionHypothesis isWritten,
        List.reverse_cons, List.append_assoc, List.singleton_append]

theorem exists_digit_of_mem_encodeChars {bytes : Bytes} {character : Char}
    (member : character ∈ encodeChars bytes) : ∃ half < 16, character = digit half := by
  obtain ⟨byte, _, isHalf⟩ := List.mem_flatMap.mp member
  obtain ⟨highSmall, lowSmall, _⟩ := halves_of_byte byte
  simp only [List.mem_cons, List.not_mem_nil, or_false] at isHalf
  rcases isHalf with isHigh | isLow
  · exact ⟨_, highSmall, isHigh⟩
  · exact ⟨_, lowSmall, isLow⟩

theorem isDigit_of_lowered {digits read : Bytes} (isWritten : lowered digits = encodeChars read)
    {byte : UInt8} (member : byte ∈ digits) : IsDigit (ofByte byte) := by
  have isLowered : (ofByte byte).toLower ∈ encodeChars read :=
    isWritten ▸ List.mem_map_of_mem member
  obtain ⟨half, small, isHalf⟩ := exists_digit_of_mem_encodeChars isLowered
  exact isDigit_of_digitValue? (digitValue?_eq_some_iff.mpr ⟨small, isHalf⟩)

theorem length_encodeChars (bytes : Bytes) : (encodeChars bytes).length = 2 * bytes.length := by
  induction bytes with
  | nil => rfl
  | cons byte others inductionHypothesis =>
      rw [encodeChars_cons, List.length_cons, List.length_cons, inductionHypothesis,
        List.length_cons]
      omega

theorem length_of_lowered {digits read : Bytes} (isWritten : lowered digits = encodeChars read) :
    digits.length = 2 * read.length := by
  rw [← length_encodeChars, ← isWritten, lowered, List.length_map]

/-! ## The first fault -/

/-- The byte is the leftmost one that is no digit, and stands at the position. -/
def FirstFault (digits : Bytes) (byte : UInt8) (position : Nat) : Prop :=
  ∃ before after, digits = before ++ byte :: after ∧ before.length = position ∧
    (∀ earlier ∈ before, IsDigit (ofByte earlier)) ∧ ¬ IsDigit (ofByte byte)

section FirstFault

variable {digits : Bytes} {byte : UInt8} {position : Nat}

theorem firstFault_head (noDigit : ¬ IsDigit (ofByte byte)) (digits : Bytes) :
    FirstFault (byte :: digits) byte 0 :=
  ⟨[], digits, rfl, rfl, fun _ member => (List.not_mem_nil member).elim, noDigit⟩

theorem FirstFault.behind {first : UInt8} (isDigit : IsDigit (ofByte first))
    (isFirst : FirstFault digits byte position) :
    FirstFault (first :: digits) byte (position + 1) := by
  obtain ⟨before, after, rfl, rfl, allDigits, noDigit⟩ := isFirst
  exact ⟨first :: before, after, rfl, rfl, List.forall_mem_cons.mpr ⟨isDigit, allDigits⟩, noDigit⟩

theorem FirstFault.mem (isFirst : FirstFault digits byte position) :
    byte ∈ digits ∧ ¬ IsDigit (ofByte byte) := by
  obtain ⟨before, after, rfl, _, _, noDigit⟩ := isFirst
  exact ⟨List.mem_append_right _ List.mem_cons_self, noDigit⟩

/-- Up to the first fault there are as many digits as there are in front. -/
theorem FirstFault.found (isFirst : FirstFault digits byte position) :
    position = (digits.takeWhile fun byte => decide (IsDigit (ofByte byte))).length ∧
      digits[position]? = some byte := by
  obtain ⟨before, after, rfl, rfl, allDigits, noDigit⟩ := isFirst
  have allTaken : ∀ earlier ∈ before, decide (IsDigit (ofByte earlier)) = true :=
    fun earlier member => decide_eq_true (allDigits earlier member)
  rw [List.takeWhile_append_of_pos allTaken, List.takeWhile_cons_of_neg (by simp [noDigit])]
  simp

theorem FirstFault.unique {other : UInt8} {otherPosition : Nat}
    (isFirst : FirstFault digits byte position)
    (isFirstToo : FirstFault digits other otherPosition) :
    byte = other ∧ position = otherPosition := by
  obtain ⟨isPosition, isByte⟩ := isFirst.found
  obtain ⟨isPositionToo, isByteToo⟩ := isFirstToo.found
  have samePosition : position = otherPosition := isPosition.trans isPositionToo.symm
  rw [samePosition, isByteToo] at isByte
  exact ⟨(Option.some.inj isByte).symm, samePosition⟩

end FirstFault

theorem exists_firstFault_of_decodePairs
    {position : Nat}
    {decoded digits : Bytes}
    {fault : HexFault}
    (even : digits.length % 2 = 0)
    (isRefused : decodePairs position decoded digits = .error fault) :
    ∃ byte index, FirstFault digits byte index ∧
      fault = .invalidDigit byte (position + index) := by
  fun_induction decodePairs position decoded digits with
  | case1 => cases isRefused
  | case2 => cases even
  | case3 position decoded high low rest highRefused =>
      cases isRefused
      exact ⟨high, 0, firstFault_head (digitValue?_eq_none_iff.mp highRefused) _, rfl⟩
  | case4 position decoded high low rest highValue highRead lowRefused =>
      cases isRefused
      have isFirst := firstFault_head (digitValue?_eq_none_iff.mp lowRefused) rest
      exact ⟨low, 1, isFirst.behind (isDigit_of_digitValue? highRead), rfl⟩
  | case5 position decoded high low rest highValue highRead lowValue lowRead
      inductionHypothesis =>
      have restEven : rest.length % 2 = 0 := by
        rw [List.length_cons, List.length_cons] at even
        omega
      obtain ⟨byte, index, isFirst, isFault⟩ := inductionHypothesis restEven isRefused
      have behindPair := (isFirst.behind (isDigit_of_digitValue? lowRead)).behind
        (isDigit_of_digitValue? highRead)
      refine ⟨byte, index + 1 + 1, behindPair, ?_⟩
      rw [isFault]
      congr 1
      omega

/-! ## Texts -/

section Texts

variable {text : String} {bytes : Bytes}

/-- A text has an odd number of bytes, or is read, or has a first fault. -/
theorem decode_cases (text : String) :
    ((Utf8.encode text).length % 2 = 1 ∧ decode text = .error .oddLength) ∨
      ((Utf8.encode text).length % 2 = 0 ∧
        ∃ bytes, decode text = .ok bytes ∧ lowered (Utf8.encode text) = encodeChars bytes) ∨
      ((Utf8.encode text).length % 2 = 0 ∧
        ∃ byte position, decode text = .error (.invalidDigit byte position) ∧
          FirstFault (Utf8.encode text) byte position) := by
  rcases Nat.mod_two_eq_zero_or_one (Utf8.encode text).length with even | odd
  · have isPairs : decode text = decodePairs 0 [] (Utf8.encode text) :=
      if_neg (not_not_intro even)
    cases isRead : decodePairs 0 [] (Utf8.encode text) with
    | ok bytes =>
        obtain ⟨read, isBytes, isWritten⟩ := lowered_of_decodePairs isRead
        rw [List.reverse_nil, List.nil_append] at isBytes
        exact Or.inr (Or.inl ⟨even, bytes, isPairs.trans isRead, isBytes ▸ isWritten⟩)
    | error fault =>
        obtain ⟨byte, position, isFirst, isFault⟩ := exists_firstFault_of_decodePairs even isRead
        rw [Nat.zero_add] at isFault
        exact Or.inr (Or.inr ⟨even, byte, position, by rw [isPairs, isRead, isFault], isFirst⟩)
  · have notEven : (Utf8.encode text).length % 2 ≠ 0 := by omega
    exact Or.inl ⟨odd, if_pos notEven⟩

theorem decode_eq_ok_iff_lowered :
    decode text = .ok bytes ↔ lowered (Utf8.encode text) = encodeChars bytes := by
  constructor
  · intro isRead
    rcases decode_cases text with ⟨_, isRefused⟩ | ⟨_, read, isReadToo, isWritten⟩ |
      ⟨_, _, _, isRefused, _⟩
    · rw [isRead] at isRefused
      cases isRefused
    · rw [isRead] at isReadToo
      cases isReadToo
      exact isWritten
    · rw [isRead] at isRefused
      cases isRefused
  · intro isWritten
    have even : (Utf8.encode text).length % 2 = 0 := by
      rw [length_of_lowered isWritten]
      omega
    have isPairs : decode text = decodePairs 0 [] (Utf8.encode text) :=
      if_neg (not_not_intro even)
    rw [isPairs, decodePairs_of_lowered isWritten]
    rfl

theorem length_of_decode (isRead : decode text = .ok bytes) :
    (Utf8.encode text).length = 2 * bytes.length :=
  length_of_lowered (decode_eq_ok_iff_lowered.mp isRead)

theorem decode_eq_oddLength_iff :
    decode text = .error .oddLength ↔ (Utf8.encode text).length % 2 = 1 := by
  rcases decode_cases text with ⟨odd, isRefused⟩ | ⟨even, _, isRead, _⟩ |
    ⟨even, _, _, isRefused, _⟩
  · simp [isRefused, odd]
  · simp [isRead, even]
  · simp [isRefused, even]

theorem decode_eq_invalidDigit_iff {byte : UInt8} {position : Nat} :
    decode text = .error (.invalidDigit byte position) ↔
      (Utf8.encode text).length % 2 = 0 ∧ FirstFault (Utf8.encode text) byte position := by
  rcases decode_cases text with ⟨odd, isRefused⟩ | ⟨even, _, isRead, isWritten⟩ |
    ⟨even, _, _, isRefused, isFirst⟩
  · simp [isRefused, odd]
  · have noFault : ¬ FirstFault (Utf8.encode text) byte position := by
      intro isFirst
      obtain ⟨member, noDigit⟩ := isFirst.mem
      exact noDigit (isDigit_of_lowered isWritten member)
    simp [isRead, noFault]
  · rw [isRefused]
    constructor
    · rintro ⟨⟩
      exact ⟨even, isFirst⟩
    · rintro ⟨_, isFirstToo⟩
      obtain ⟨rfl, rfl⟩ := isFirst.unique isFirstToo
      rfl

theorem decode_ne_invalidLength : decode text ≠ .error .invalidLength := by
  rcases decode_cases text with ⟨_, isRefused⟩ | ⟨_, _, isRead, _⟩ | ⟨_, _, _, isRefused, _⟩
  · simp [isRefused]
  · simp [isRead]
  · simp [isRefused]

theorem exists_decode_eq_ok_iff :
    (∃ bytes, decode text = .ok bytes) ↔
      (Utf8.encode text).length % 2 = 0 ∧
        ∀ byte ∈ Utf8.encode text, IsDigit (ofByte byte) := by
  rcases decode_cases text with ⟨odd, isRefused⟩ | ⟨even, bytes, isRead, isWritten⟩ |
    ⟨even, byte, _, isRefused, isFirst⟩
  · simp [isRefused, odd]
  · exact iff_of_true ⟨bytes, isRead⟩ ⟨even, fun _ => isDigit_of_lowered isWritten⟩
  · obtain ⟨member, noDigit⟩ := isFirst.mem
    refine iff_of_false ?_ fun allDigits => noDigit (allDigits.2 byte member)
    simp [isRefused]

theorem toList_toLower (text : String) : text.toLower.toList = text.toList.map Char.toLower :=
  String.toList_map

theorem length_toLower (text : String) : text.toLower.length = text.length :=
  String.length_map

theorem toLower_encode (bytes : Bytes) : (encode bytes).toLower = encode bytes := by
  have alreadyLower : ∀ character ∈ encodeChars bytes, character.toLower = character := by
    intro character member
    obtain ⟨half, small, rfl⟩ := exists_digit_of_mem_encodeChars member
    exact (digit_of_lt small).2
  rw [← String.toList_inj, toList_toLower, encode, String.toList_ofList,
    List.map_congr_left alreadyLower, List.map_id']

theorem length_encode (bytes : Bytes) : (encode bytes).length = 2 * bytes.length := by
  rw [encode, String.length_ofList, length_encodeChars]

/-! ## Characters in place of bytes -/

theorem ascii_of_toLower {character : Char} (ascii : character.toLower.toNat < 128) :
    character.toNat < 128 := by
  unfold Char.toLower at ascii
  split at ascii
  · next isUpper => exact Nat.lt_of_le_of_lt isUpper.2 (by decide)
  · exact ascii

theorem ascii_of_isDigit_bytes (allDigits : ∀ byte ∈ Utf8.encode text, IsDigit (ofByte byte))
    {character : Char} (member : character ∈ text.toList) : character.toNat < 128 := by
  refine Utf8.ascii_of_bytes (fun byte isByte => ?_) member
  rw [← Utf8.toNat_ofByte]
  exact (allDigits byte isByte).ascii

theorem forall_isDigit_iff :
    (∀ byte ∈ Utf8.encode text, IsDigit (ofByte byte)) ↔
      ∀ character ∈ text.toList, IsDigit character := by
  constructor
  · intro allDigits
    rw [← Utf8.map_ofByte_encode fun _ => ascii_of_isDigit_bytes allDigits]
    exact List.forall_mem_map.mpr allDigits
  · intro allDigits
    rw [← Utf8.map_ofByte_encode fun character member => (allDigits character member).ascii]
      at allDigits
    exact List.forall_mem_map.mp allDigits

theorem lowered_encode (ascii : ∀ character ∈ text.toList, character.toNat < 128) :
    lowered (Utf8.encode text) = text.toLower.toList := by
  rw [toList_toLower, ← Utf8.map_ofByte_encode ascii, List.map_map]
  rfl

theorem length_encode_of_isDigit (allDigits : ∀ character ∈ text.toList, IsDigit character) :
    (Utf8.encode text).length = text.length := by
  have areCharacters : (Utf8.encode text).map ofByte = text.toList :=
    Utf8.map_ofByte_encode fun character member => (allDigits character member).ascii
  rw [← String.length_toList, ← areCharacters, List.length_map]

/-- A text is read as the bytes that its lowercase form is written for. -/
theorem decode_eq_ok_iff : decode text = .ok bytes ↔ text.toLower = encode bytes := by
  rw [decode_eq_ok_iff_lowered, encode, ← String.toList_inj, String.toList_ofList]
  constructor
  · intro isWritten
    rw [← lowered_encode, isWritten]
    intro character
    exact ascii_of_isDigit_bytes fun byte => isDigit_of_lowered isWritten
  · intro isWritten
    rw [lowered_encode, isWritten]
    intro character member
    have isLowered : character.toLower ∈ encodeChars bytes := by
      rw [← isWritten, toList_toLower]
      exact List.mem_map_of_mem member
    obtain ⟨half, small, isHalf⟩ := exists_digit_of_mem_encodeChars isLowered
    exact ascii_of_toLower (isHalf ▸ (digit_of_lt small).1)

end Texts

end Hex

end BlockCustody.Text
