import BlockCustody.Text.Utf8

/-!
Contract: UTF-8 as a one-to-one correspondence.

Owns:
- that a text's bytes are read back as that text;
- that no other bytes are read as it;
- that ASCII characters, and no others, are single bytes of the same number.

Does not own: which fault other bytes have.
-/

namespace BlockCustody.Text.Utf8

theorem encode_injective {left right : String} (same : encode left = encode right) :
    left = right := by
  apply String.toByteArray_inj.mp
  apply ByteArray.ext
  exact Array.toList_inj.mp same

theorem decode_encode (text : String) : decode (encode text) = .ok text := by
  have bytesBack : (⟨(encode text).toArray⟩ : ByteArray) = text.toByteArray := by
    simp [encode]
  unfold decode
  rw [bytesBack, String.fromUTF8?, dif_pos text.isValidUTF8]
  rfl

theorem encode_of_decode {bytes : Bytes} {text : String} (read : decode bytes = .ok text) :
    encode text = bytes := by
  unfold decode at read
  split at read
  · next found isText =>
      cases read
      simp only [String.fromUTF8?] at isText
      split at isText
      · cases isText
        rfl
      · cases isText
  · cases read

/-- Exactly one byte string is read as a given text. -/
theorem decode_eq_ok_iff {bytes : Bytes} {text : String} :
    decode bytes = .ok text ↔ bytes = encode text := by
  constructor
  · intro read
    exact (encode_of_decode read).symm
  · rintro rfl
    exact decode_encode text

/-! ## ASCII characters -/

/-- The character with the number of a byte. -/
def ofByte (byte : UInt8) : Char :=
  Char.ofNat byte.toNat

theorem toNat_ofByte (byte : UInt8) : (ofByte byte).toNat = byte.toNat := by
  have small := byte.toNat_lt
  have isValid : byte.toNat.isValidChar := Or.inl (by omega)
  rw [ofByte, Char.ofNat, dif_pos isValid]
  rfl

theorem encode_eq_flatMap (text : String) :
    encode text = text.toList.flatMap String.utf8EncodeChar := by
  rw [encode, String.toUTF8, ← String.utf8Encode_toList, List.utf8Encode]
  simp

theorem utf8EncodeChar_of_ascii {character : Char} (ascii : character.toNat < 128) :
    ∃ byte, String.utf8EncodeChar character = [byte] ∧ ofByte byte = character := by
  refine ⟨UInt8.ofNat character.toNat, ?_, ?_⟩
  · have within : character.val.toNat ≤ 127 := Nat.le_of_lt_succ ascii
    rw [String.utf8EncodeChar, if_pos within]
    rfl
  · have isByte : (UInt8.ofNat character.toNat).toNat = character.toNat := by
      rw [UInt8.toNat_ofNat', Nat.mod_eq_of_lt (by omega)]
    rw [ofByte, isByte, Char.ofNat_toNat]

/-- Beyond ASCII already the first byte is no ASCII character. -/
theorem exists_byte_of_not_ascii {character : Char} (notAscii : ¬ character.toNat < 128) :
    ∃ byte ∈ String.utf8EncodeChar character, 128 ≤ byte.toNat := by
  have beyond : ¬ character.val.toNat ≤ 127 := by
    intro within
    exact notAscii (Nat.lt_succ_of_le within)
  rw [String.utf8EncodeChar, if_neg beyond]
  repeat' split
  all_goals
    refine ⟨_, List.mem_cons_self, ?_⟩
    rw [UInt8.toNat_ofNat']
    omega

theorem map_ofByte_encode {text : String}
    (ascii : ∀ character ∈ text.toList, character.toNat < 128) :
    (encode text).map ofByte = text.toList := by
  rw [encode_eq_flatMap]
  generalize text.toList = characters at ascii ⊢
  induction characters with
  | nil => rfl
  | cons character others inductionHypothesis =>
      obtain ⟨byte, isEncoded, isByte⟩ :=
        utf8EncodeChar_of_ascii (ascii character List.mem_cons_self)
      have othersAscii := fun other member => ascii other (List.mem_cons_of_mem _ member)
      rw [List.flatMap_cons, isEncoded, List.singleton_append, List.map_cons, isByte,
        inductionHypothesis othersAscii]

theorem ascii_of_bytes {text : String} (small : ∀ byte ∈ encode text, byte.toNat < 128)
    {character : Char} (member : character ∈ text.toList) : character.toNat < 128 := by
  apply Decidable.byContradiction
  intro notAscii
  obtain ⟨byte, isPart, large⟩ := exists_byte_of_not_ascii notAscii
  have isByte : byte ∈ encode text := by
    rw [encode_eq_flatMap]
    exact List.mem_flatMap.mpr ⟨character, member, isPart⟩
  exact absurd (small byte isByte) (Nat.not_lt.mpr large)

end BlockCustody.Text.Utf8
