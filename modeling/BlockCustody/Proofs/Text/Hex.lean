import BlockCustody.Text.Hex

/-!
Contract: hexadecimal text tells byte strings apart.

Owns: that two digits stand for one byte only, and a text for one byte string.

Does not own: which texts are read, and the faults of others.
-/

namespace BlockCustody.Text.Hex

/-- The number a written digit stands for. -/
def digitNumber (character : Char) : UInt8 :=
  (digitValue? character.toNat.toUInt8).getD 0

theorem digitNumber_digits (byte : UInt8) :
    digitNumber (digit (byte >>> 4)) <<< 4 ||| digitNumber (digit (byte &&& 15)) = byte := by
  have allBytes : ∀ number < 256,
      digitNumber (digit (UInt8.ofNat number >>> 4)) <<< 4 |||
        digitNumber (digit (UInt8.ofNat number &&& 15)) = UInt8.ofNat number := by
    decide +kernel
  have thisByte := allBytes byte.toNat byte.toNat_lt
  rwa [UInt8.ofNat_toNat] at thisByte

theorem eq_of_digits_eq
    {left right : UInt8}
    (highSame : digit (left >>> 4) = digit (right >>> 4))
    (lowSame : digit (left &&& 15) = digit (right &&& 15)) :
    left = right := by
  rw [← digitNumber_digits left, ← digitNumber_digits right, highSame, lowSame]

theorem encodeChars_injective {left right : Bytes}
    (same : encodeChars left = encodeChars right) : left = right := by
  induction left generalizing right with
  | nil =>
      cases right with
      | nil => rfl
      | cons other others => cases same
  | cons byte bytes inductionHypothesis =>
      cases right with
      | nil => cases same
      | cons other others =>
          simp only [encodeChars, List.flatMap_cons, List.cons_append, List.nil_append,
            List.cons.injEq] at same
          obtain ⟨highSame, lowSame, restSame⟩ := same
          rw [eq_of_digits_eq highSame lowSame, inductionHypothesis restSame]

theorem encode_injective {left right : Bytes} (same : encode left = encode right) :
    left = right :=
  encodeChars_injective (String.ofList_injective same)

end BlockCustody.Text.Hex
