import BlockCustody.Sealing.SealedBytes

/-!
Contract: opening undoes sealing.

Owns:
- that the keystream applied twice leaves bytes as they were;
- what opening makes of a nonce, a ciphertext and a tag put together;
- that whatever was sealed opens, under the same key, to what it was.

Does not own: that nobody else can make bytes that open.
-/

namespace BlockCustody.Sealing

@[simp]
theorem length_keystream (key : BlockKey) (nonce : Nonce) (length : Nat) :
    (keystream key nonce length).length = length :=
  ChaCha20.length_keystream _ length

@[simp]
theorem length_applyKeystream (key : BlockKey) (nonce : Nonce) (bytes : Bytes) :
    (applyKeystream key nonce bytes).length = bytes.length := by
  simp [applyKeystream]

@[simp]
theorem length_tag (key : BlockKey) (nonce : Nonce) (ciphertext : Bytes) :
    (tag key nonce ciphertext).length = 16 :=
  Poly1305.length_tag _ _

theorem zipWith_xor_twice
    (bytes mask : Bytes)
    (length : mask.length = bytes.length) :
    List.zipWith (· ^^^ ·) (List.zipWith (· ^^^ ·) bytes mask) mask = bytes := by
  induction bytes generalizing mask with
  | nil => simp
  | cons byte rest inductionHypothesis =>
      cases mask with
      | nil => simp at length
      | cons first others =>
          have othersLength : others.length = rest.length := by simpa using length
          simp only [List.zipWith_cons_cons, inductionHypothesis others othersLength,
            UInt8.xor_assoc, UInt8.xor_self, UInt8.xor_zero]

/-- The keystream of a key and nonce takes itself off again. -/
theorem applyKeystream_twice (key : BlockKey) (nonce : Nonce) (bytes : Bytes) :
    applyKeystream key nonce (applyKeystream key nonce bytes) = bytes := by
  unfold applyKeystream
  rw [List.length_zipWith, length_keystream, Nat.min_self]
  exact zipWith_xor_twice bytes _ (length_keystream key nonce bytes.length)

/-- Opening a nonce, a ciphertext and sixteen more bytes compares the latter with
the tag. -/
theorem openSealed_parts
    (key : BlockKey)
    (nonce : Nonce)
    (ciphertext mark : Bytes)
    (length_mark : mark.length = 16) :
    openSealed key (nonce.bytes ++ ciphertext ++ mark) =
      if ciphertext.length / 64 ≥ blockLimit then .error .notAuthentic
      else if tag key nonce ciphertext = mark then .ok (applyKeystream key nonce ciphertext)
      else .error .notAuthentic := by
  have nonceBack : (nonce.bytes ++ ciphertext ++ mark).take 24 = nonce.bytes := by
    rw [List.append_assoc, ← nonce.length_bytes, List.take_left]
  have bodyBack : (nonce.bytes ++ ciphertext ++ mark).drop 24 = ciphertext ++ mark := by
    rw [List.append_assoc, ← nonce.length_bytes, List.drop_left]
  have bodyLength : (ciphertext ++ mark).length - 16 = ciphertext.length := by
    rw [List.length_append, length_mark, Nat.add_sub_cancel]
  have longEnough : ¬ (ciphertext ++ mark).length < 16 := by
    rw [List.length_append, length_mark]
    omega
  have nonceFits : Nonce.ofBytes? nonce.bytes = some nonce := by
    rw [Nonce.ofBytes?, dif_pos nonce.length_bytes]
  unfold openSealed
  simp only [nonceBack, nonceFits, bodyBack, bodyLength, if_neg longEnough, List.take_left,
    List.drop_left]

/-- What was sealed under a nonce opens to what it was. -/
theorem openSealed_of_sealUnder
    {key : BlockKey}
    {nonce : Nonce}
    {content sealed : Bytes}
    (isSealed : sealUnder key nonce content = .ok sealed) :
    openSealed key sealed = .ok content := by
  unfold sealUnder at isSealed
  split at isSealed
  · cases isSealed
  · next fits =>
      cases isSealed
      rw [openSealed_parts key nonce _ _ (length_tag key nonce _), length_applyKeystream,
        if_neg fits, if_pos rfl, applyKeystream_twice]

theorem openSealed_of_sealContent
    {key : BlockKey}
    {content sealed : Bytes}
    (isSealed : sealContent key content = .ok sealed) :
    openSealed key sealed = .ok content :=
  openSealed_of_sealUnder isSealed

end BlockCustody.Sealing
