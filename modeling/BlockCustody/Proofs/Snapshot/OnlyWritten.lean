import BlockCustody.Proofs.Reading.ReadsOnly
import BlockCustody.Proofs.Snapshot.Restoring

/-!
Contract: readers of the binary format that find nothing but what is written for a value.

Owns:
- for each part of packages, that a value found in front of the input is there as it is
  written, and short enough to be counted;
- that a map or a snapshot has nothing in it but what the readers of its parts find.

Does not own: parts only snapshots have, and the fields of any component.
-/

namespace BlockCustody.Snapshot

open FrontReader (finds_any finds_pure readsOnly_pure readsOnly_refuse)

variable {α key value : Type}

theorem takeBytes_readsOnly (fault : FormatFault) (count : Nat) :
    (Reader.takeBytes fault count).ReadsOnly fun bytes taken =>
      bytes.length = count ∧ taken = bytes := by
  intro input bytes rest isRead
  simp only [Reader.takeBytes] at isRead
  split at isRead
  · cases isRead
  · next enough =>
      cases isRead
      refine ⟨input.take count, ⟨?_, rfl⟩, (List.take_append_drop count input).symm⟩
      rw [List.length_take] at enough ⊢
      omega

theorem fixedNumber_readsOnly (width : Nat) :
    (Reader.fixedNumber width).ReadsOnly fun number taken =>
      number < LittleEndian.capacity width ∧ taken = LittleEndian.encode width number := by
  apply (takeBytes_readsOnly .endOfInput width).bind
  rintro _ bytes ⟨length, rfl⟩
  apply readsOnly_pure
  subst length
  refine ⟨LittleEndian.decode_lt bytes, ?_⟩
  rw [List.append_nil, LittleEndian.encode_decode]

theorem number_readsOnly :
    Reader.number.ReadsOnly fun number taken =>
      number < LittleEndian.capacity 8 ∧ taken = writeNumber number :=
  fixedNumber_readsOnly 8

theorem flag_readsOnly : Reader.flag.ReadsOnly fun flag taken => taken = writeFlag flag := by
  apply (takeBytes_readsOnly .endOfInput 1).bind
  rintro bytes _ ⟨_, rfl⟩
  split
  · exact readsOnly_pure rfl
  · exact readsOnly_pure rfl
  · exact readsOnly_refuse _ _
  · exact readsOnly_refuse _ _

theorem bytes_readsOnly :
    Reader.bytes.ReadsOnly fun bytes taken =>
      bytes.length < LittleEndian.capacity 8 ∧ taken = writeBytes bytes := by
  apply number_readsOnly.bind
  rintro count _ ⟨fits, rfl⟩ input _ rest isRead
  obtain ⟨bytes, ⟨rfl, rfl⟩, isInput⟩ := takeBytes_readsOnly .endOfInput count _ _ _ isRead
  exact ⟨bytes, ⟨fits, rfl⟩, isInput⟩

theorem id_readsOnly : Reader.id.ReadsOnly fun id taken => taken = writeId id := by
  apply (takeBytes_readsOnly .endOfInput 32).bind
  rintro _ bytes ⟨length, rfl⟩
  rw [ContentId.ofBytes?, dif_pos length]
  apply readsOnly_pure
  exact List.append_nil bytes

theorem list_readsOnly
    {item : Reader α}
    {write : α → Bytes}
    {valid : α → Prop}
    (itemOnly : item.ReadsOnly fun value taken => valid value ∧ taken = write value) :
    (Reader.list item).ReadsOnly fun items taken =>
      (items.length < LittleEndian.capacity 8 ∧ ∀ value ∈ items, valid value) ∧
        taken = writeList write items := by
  apply number_readsOnly.bind
  rintro count _ ⟨fits, rfl⟩ input items rest isRead
  obtain ⟨_, ⟨_, rfl, rfl, eachValid, rfl⟩, isInput⟩ := itemOnly.items count [] _ _ _ isRead
  exact ⟨_, ⟨⟨fits, eachValid⟩, rfl⟩, isInput⟩

/-- A map is found where the entries of some list stand, in whatever order. -/
theorem map_readsOnly
    [OrderedKey key]
    {readKey : Reader key}
    {writeKey : key → Bytes}
    {readValue : Reader value}
    {writeValue : value → Bytes}
    {valid : value → Prop}
    (keyOnly : readKey.ReadsOnly fun present taken => taken = writeKey present)
    (valueOnly : readValue.ReadsOnly fun present taken =>
      valid present ∧ taken = writeValue present) :
    (Reader.map readKey readValue).ReadsOnly fun map taken =>
      ∃ entries : List (key × value),
        (entries.length < LittleEndian.capacity 8 ∧ ∀ entry ∈ entries, valid entry.2) ∧
          taken = writeList (fun entry => writeKey entry.1 ++ writeValue entry.2) entries ∧
          map = KeyedMap.ofList entries := by
  have entryOnly :
      (do let key ← readKey; return (key, ← readValue) : Reader (key × value)).ReadsOnly
        fun entry taken => valid entry.2 ∧ taken = writeKey entry.1 ++ writeValue entry.2 := by
    apply keyOnly.bind
    rintro present _ rfl
    apply valueOnly.bind
    rintro content _ ⟨isValid, rfl⟩
    apply readsOnly_pure
    refine ⟨isValid, ?_⟩
    rw [List.append_nil]
  apply (list_readsOnly entryOnly).bind
  rintro entries _ ⟨lengths, rfl⟩
  apply readsOnly_pure
  exact ⟨entries, lengths, List.append_nil _, rfl⟩

/-! ## Kinds of values -/

theorem map_finds
    [OrderedKey key]
    {readKey : Reader key}
    {readValue : Reader value}
    {kind : value → Prop}
    (valueFinds : readValue.Finds kind) :
    (Reader.map readKey readValue).Finds fun map => ∀ entry ∈ map.entries, kind entry.2 := by
  have entryFinds :
      (do let key ← readKey; return (key, ← readValue) : Reader (key × value)).Finds
        fun entry => kind entry.2 := by
    refine (finds_any readKey).bind fun present _ => ?_
    refine valueFinds.bind fun content isKind => ?_
    exact finds_pure isKind
  have listFinds :
      (Reader.list (do let key ← readKey; return (key, ← readValue))).Finds
        fun entries => ∀ entry ∈ entries, kind entry.2 :=
    (finds_any Reader.number).bind fun count _ => entryFinds.items count (by simp)
  refine listFinds.bind fun entries areKind => ?_
  refine finds_pure fun entry member => ?_
  exact areKind entry ((KeyedMap.subperm_entries_ofList entries).subset member)

theorem read_finds {body : Reader α} {kind : α → Prop} (bodyFinds : body.Finds kind)
    {bytes : Bytes} {decoded : α} (accepted : read body bytes = .ok decoded) :
    kind decoded := by
  have versionedFinds : (versioned body).Finds fun found => kind found.2 := by
    refine (finds_any (Reader.fixedNumber 4)).bind fun version _ => ?_
    refine bodyFinds.bind fun found isKind => ?_
    exact finds_pure isKind
  exact versionedFinds _ _ _ (whole_eq_ok_iff.mp (read_eq_ok_iff.mp accepted))

end BlockCustody.Snapshot
