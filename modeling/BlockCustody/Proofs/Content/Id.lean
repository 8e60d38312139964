import BlockCustody.Content.Id
import BlockCustody.Proofs.Text.HexReading

/-!
Contract: ids as their bytes and as their text.

Owns:
- that ids are told apart by their bytes;
- which texts name an id, and which id;
- the fault of every text that names none.

Does not own: what an id names.
-/

namespace BlockCustody.ContentId

open Text

theorem eq_of_bytes_eq {left right : ContentId} (same : left.bytes = right.bytes) :
    left = right := by
  cases left
  cases right
  cases same
  rfl

theorem ofBytes?_bytes (id : ContentId) : ofBytes? id.bytes = some id := by
  rw [ofBytes?, dif_pos id.length_bytes]

theorem ofBytes?_eq_some_iff {bytes : Bytes} {id : ContentId} :
    ofBytes? bytes = some id ↔ bytes = id.bytes := by
  constructor
  · intro isId
    unfold ofBytes? at isId
    split at isId
    · cases isId
      rfl
    · cases isId
  · rintro rfl
    exact ofBytes?_bytes id

theorem ofBytes?_eq_none_iff {bytes : Bytes} : ofBytes? bytes = none ↔ bytes.length ≠ 32 := by
  unfold ofBytes?
  split
  · next isLength => simp [isLength]
  · next notLength => simp [notLength]

/-! ## Texts -/

section Texts

variable {text : String} {id : ContentId}

/-- A text is judged by its bytes first and by how many they stand for then. -/
theorem ofHex_cases (text : String) :
    (∃ fault, Hex.decode text = .error fault ∧ ofHex text = .error fault) ∨
      (∃ bytes, Hex.decode text = .ok bytes ∧ bytes.length ≠ 32 ∧
        ofHex text = .error .invalidLength) ∨
      ∃ id : ContentId, Hex.decode text = .ok id.bytes ∧ ofHex text = .ok id := by
  unfold ofHex
  cases Hex.decode text with
  | error fault => exact Or.inl ⟨fault, rfl, rfl⟩
  | ok bytes =>
      cases isId : ofBytes? bytes with
      | none => exact Or.inr (Or.inl ⟨bytes, rfl, ofBytes?_eq_none_iff.mp isId, by simp [isId]⟩)
      | some id =>
          obtain rfl := ofBytes?_eq_some_iff.mp isId
          exact Or.inr (Or.inr ⟨id, rfl, by simp [isId]⟩)

theorem ofHex_eq_ok_iff : ofHex text = .ok id ↔ text.toLower = id.toHex := by
  rw [toHex, ← Hex.decode_eq_ok_iff]
  rcases ofHex_cases text with ⟨fault, isFault, isRefused⟩ | ⟨bytes, isRead, notLength, isRefused⟩ |
    ⟨found, isRead, isId⟩
  · simp [isFault, isRefused]
  · rw [isRead, isRefused]
    refine iff_of_false nofun ?_
    rintro ⟨⟩
    exact notLength id.length_bytes
  · rw [isRead, isId]
    constructor
    · rintro ⟨⟩
      rfl
    · intro sameBytes
      rw [eq_of_bytes_eq (Except.ok.inj sameBytes)]

theorem ofHex_eq_error_iff {fault : HexFault} (isOther : fault ≠ .invalidLength) :
    ofHex text = .error fault ↔ Hex.decode text = .error fault := by
  rcases ofHex_cases text with ⟨_, isFault, isRefused⟩ | ⟨_, isRead, _, isRefused⟩ |
    ⟨_, isRead, isId⟩
  · rw [isFault, isRefused]
    simp
  · simp [isRead, isRefused, isOther.symm]
  · simp [isRead, isId]

theorem ofHex_eq_invalidLength_iff :
    ofHex text = .error .invalidLength ↔
      (Utf8.encode text).length % 2 = 0 ∧
        (∀ byte ∈ Utf8.encode text, Hex.IsDigit (Utf8.ofByte byte)) ∧
        (Utf8.encode text).length ≠ 64 := by
  rcases ofHex_cases text with ⟨fault, isFault, isRefused⟩ |
    ⟨bytes, isRead, notLength, isRefused⟩ | ⟨id, isRead, isId⟩
  · have isOther : fault ≠ .invalidLength := by
      rintro rfl
      exact Hex.decode_ne_invalidLength isFault
    refine iff_of_false (by simp [isRefused, isOther]) ?_
    rintro ⟨even, allDigits, _⟩
    obtain ⟨bytes, isRead⟩ := Hex.exists_decode_eq_ok_iff.mpr ⟨even, allDigits⟩
    rw [isFault] at isRead
    cases isRead
  · obtain ⟨even, allDigits⟩ := Hex.exists_decode_eq_ok_iff.mp ⟨bytes, isRead⟩
    refine iff_of_true isRefused ⟨even, allDigits, ?_⟩
    rw [Hex.length_of_decode isRead]
    omega
  · refine iff_of_false (by simp [isId]) ?_
    rintro ⟨_, _, notLength⟩
    rw [Hex.length_of_decode isRead, id.length_bytes] at notLength
    exact notLength rfl

theorem exists_ofHex_eq_ok_iff :
    (∃ id, ofHex text = .ok id) ↔
      text.length = 64 ∧ ∀ character ∈ text.toList, Hex.IsDigit character := by
  constructor
  · rintro ⟨id, isId⟩
    have isText := ofHex_eq_ok_iff.mp isId
    have isRead := Hex.decode_eq_ok_iff.mpr isText
    refine ⟨?_, Hex.forall_isDigit_iff.mp (Hex.exists_decode_eq_ok_iff.mp ⟨_, isRead⟩).2⟩
    rw [← Hex.length_toLower, isText, toHex, Hex.length_encode, id.length_bytes]
  · rintro ⟨isLength, allDigits⟩
    have byteLength : (Utf8.encode text).length = 64 := by
      rw [Hex.length_encode_of_isDigit allDigits, isLength]
    have even : (Utf8.encode text).length % 2 = 0 := by omega
    obtain ⟨bytes, isRead⟩ :=
      Hex.exists_decode_eq_ok_iff.mpr ⟨even, Hex.forall_isDigit_iff.mpr allDigits⟩
    have isBytes : bytes.length = 32 := by
      rw [Hex.length_of_decode isRead] at byteLength
      omega
    exact ⟨⟨bytes, isBytes⟩, ofHex_eq_ok_iff.mpr (Hex.decode_eq_ok_iff.mp isRead)⟩

end Texts

/-- Ids are named by the texts of 64 digits, in which case makes no difference, and by no
others. Of another text the fault is that it has an odd number of bytes; else, the leftmost
byte that is no digit, whatever character it is a part of; else, the length. -/
theorem id_is_named_by_sixty_four_digits_of_either_case :
    (∀ id : ContentId, ofHex id.toHex = .ok id) ∧
      (∀ text, (∃ id, ofHex text = .ok id) ↔
        text.length = 64 ∧ ∀ character ∈ text.toList, Hex.IsDigit character) ∧
      (∀ text id, ofHex text = .ok id ↔ text.toLower = id.toHex) ∧
      (∀ left right first second, ofHex left = .ok first → ofHex right = .ok second →
        (first = second ↔ left.toLower = right.toLower)) ∧
      (∀ text, ofHex text = .error .oddLength ↔ (Utf8.encode text).length % 2 = 1) ∧
      (∀ text byte position, ofHex text = .error (.invalidDigit byte position) ↔
        (Utf8.encode text).length % 2 = 0 ∧
          Hex.FirstFault (Utf8.encode text) byte position) ∧
      ∀ text, ofHex text = .error .invalidLength ↔
        (Utf8.encode text).length % 2 = 0 ∧
          (∀ byte ∈ Utf8.encode text, Hex.IsDigit (Utf8.ofByte byte)) ∧
          (Utf8.encode text).length ≠ 64 := by
  refine ⟨?_, fun text => exists_ofHex_eq_ok_iff, fun text id => ofHex_eq_ok_iff, ?_, ?_, ?_,
    fun text => ofHex_eq_invalidLength_iff⟩
  · intro id
    exact ofHex_eq_ok_iff.mpr (Hex.toLower_encode id.bytes)
  · intro left right first second leftRead rightRead
    rw [ofHex_eq_ok_iff.mp leftRead, ofHex_eq_ok_iff.mp rightRead]
    constructor
    · rintro rfl
      rfl
    · intro sameText
      exact eq_of_bytes_eq (Hex.encode_injective sameText)
  · intro text
    exact (ofHex_eq_error_iff (by simp)).trans Hex.decode_eq_oddLength_iff
  · intro text byte position
    exact (ofHex_eq_error_iff (by simp)).trans Hex.decode_eq_invalidDigit_iff

/-- The id of which every byte is 171, in digits of both cases. -/
def mixedCase : String :=
  String.ofList (List.replicate 32 ['a', 'B']).flatten

/-- An accented letter stands behind a digit, and takes two bytes. -/
theorem mixed_case_names_the_id_and_accented_letter_is_refused :
    ofHex mixedCase = .ok (.repeating 171) ∧
      ofHex (repeating 171).toHex = .ok (.repeating 171) ∧
      mixedCase ≠ (repeating 171).toHex ∧
      mixedCase.toLower = (repeating 171).toHex.toLower ∧
      ofHex "0é!" = .error (.invalidDigit 195 1) := by
  obtain ⟨readBack, _, isNamed, sameCase, _, firstFault, _⟩ :=
    id_is_named_by_sixty_four_digits_of_either_case
  have isRead : ofHex mixedCase = .ok (.repeating 171) :=
    (isNamed _ _).mpr (by decide +kernel)
  refine ⟨isRead, readBack _, by decide +kernel,
    (sameCase _ _ _ _ isRead (readBack _)).mp rfl, (firstFault _ _ _).mpr ⟨?_, ?_⟩⟩
  · decide +kernel
  · exact ⟨[48], [169, 33], by decide +kernel, rfl, by decide +kernel, by decide +kernel⟩

end BlockCustody.ContentId
