import BlockCustody.Proofs.Collections.KeyedMap
import BlockCustody.Proofs.Reading.ReadsBack
import BlockCustody.Proofs.Text.Utf8
import BlockCustody.Snapshot.Envelope

/-!
Contract: readers of the binary format that restore what its writers wrote.

Owns:
- when a reader restores a writer, for every part of the format but instants;
- that lists, sets and maps are restored if their items are;
- what reading all of the bytes, and writing within the limit, come to;
- what a versioned snapshot of any body is read back as.

Does not own: the text form of instants, and the fields of any component.
-/

namespace BlockCustody.Snapshot

variable {α key value : Type}

/-- A count of 64 bits can hold the length of these bytes. -/
def Countable (written : Bytes) : Prop :=
  written.length < LittleEndian.capacity 8

/-- The reader gives back whatever was written, as long as lengths can be counted. -/
def Restores (reader : Reader α) (write : α → Bytes) : Prop :=
  ∀ written, Countable (write written) → reader.ReadsBack (write written) written

theorem Countable.left {left right : Bytes} (countable : Countable (left ++ right)) :
    Countable left := by
  have total := countable
  simp only [Countable, List.length_append] at *
  omega

theorem Countable.right {left right : Bytes} (countable : Countable (left ++ right)) :
    Countable right := by
  have total := countable
  simp only [Countable, List.length_append] at *
  omega

theorem Countable.of_mem_flatMap
    {write : α → Bytes}
    {items : List α}
    {item : α}
    (countable : Countable (items.flatMap write))
    (member : item ∈ items) :
    Countable (write item) := by
  have shorter : (write item).length ≤ (items.flatMap write).length := by
    rw [List.flatMap_def]
    exact (List.sublist_flatten_of_mem (List.mem_map_of_mem member)).length_le
  exact Nat.lt_of_le_of_lt shorter countable

/-! ## Parts of fixed and counted length -/

theorem takeBytes_readsBack
    (fault : FormatFault)
    {bytes : Bytes}
    {count : Nat}
    (length : bytes.length = count) :
    (Reader.takeBytes fault count).ReadsBack bytes bytes := by
  subst length
  intro rest
  simp [Reader.takeBytes]

theorem fixedNumber_readsBack
    {width number : Nat}
    (fits : number < LittleEndian.capacity width) :
    (Reader.fixedNumber width).ReadsBack (LittleEndian.encode width number) number := by
  have taken :=
    takeBytes_readsBack .endOfInput (LittleEndian.length_encode width number)
  refine taken.bind_nil ?_
  rw [LittleEndian.decode_encode_of_lt fits]
  exact FrontReader.readsBack_pure number

theorem number_readsBack {number : Nat} (fits : number < LittleEndian.capacity 8) :
    Reader.number.ReadsBack (writeNumber number) number :=
  fixedNumber_readsBack fits

theorem flag_readsBack (flag : Bool) : Reader.flag.ReadsBack (writeFlag flag) flag := by
  intro rest
  cases flag <;> rfl

theorem choice_readsBack
    {index count : Nat}
    (among : index < count)
    (fits : index < LittleEndian.capacity 4) :
    (Reader.choice count).ReadsBack (writeChoice index) index := by
  refine (fixedNumber_readsBack fits).bind_nil ?_
  rw [if_pos among]
  exact FrontReader.readsBack_pure index

/-- The length in front of counted bytes is the length of the bytes; a last step
then makes a value of them. -/
theorem counted_readsBack
    (fault : FormatFault)
    {bytes : Bytes}
    {next : Bytes → Reader α}
    {restored : α}
    (countable : Countable (writeBytes bytes))
    (nextReads : (next bytes).ReadsBack [] restored) :
    (do next (← Reader.takeBytes fault (← Reader.number))).ReadsBack
      (writeBytes bytes) restored :=
  (number_readsBack countable.right).bind ((takeBytes_readsBack fault rfl).bind_nil nextReads)

theorem bytes_readsBack {bytes : Bytes} (count : bytes.length < LittleEndian.capacity 8) :
    Reader.bytes.ReadsBack (writeBytes bytes) bytes :=
  (number_readsBack count).bind (takeBytes_readsBack .endOfInput rfl)

theorem bytes_restores : Restores Reader.bytes writeBytes :=
  fun _ countable => bytes_readsBack countable.right

theorem text_restores : Restores Reader.text writeText := by
  intro text countable
  refine counted_readsBack .textCutOff countable ?_
  rw [Text.Utf8.decode_encode]
  exact FrontReader.readsBack_pure text

theorem id_readsBack (id : ContentId) : Reader.id.ReadsBack (writeId id) id := by
  refine (takeBytes_readsBack .endOfInput id.length_bytes).bind_nil ?_
  rw [ContentId.ofBytes?, dif_pos id.length_bytes]
  exact FrontReader.readsBack_pure id

theorem id_restores : Restores Reader.id writeId :=
  fun id _ => id_readsBack id

theorem length_writeId_pos (id : ContentId) : 0 < (writeId id).length := by
  rw [writeId, id.length_bytes]
  decide

theorem peer_restores : Restores Reader.peer writePeer := by
  intro peer countable
  refine counted_readsBack .textCutOff countable ?_
  rw [PeerId.ofBytes?, dif_pos peer.wellFormed]
  exact FrontReader.readsBack_pure peer

theorem length_writePeer_pos (peer : PeerId) : 0 < (writePeer peer).length := by
  rw [writePeer, writeBytes, writeNumber, List.length_append, LittleEndian.length_encode]
  omega

/-! ## Lists, sets and maps -/

/-- Items that take up at least a byte each are no more than their bytes. -/
theorem length_le_length_flatMap
    {write : α → Bytes}
    (nonempty : ∀ item, 0 < (write item).length)
    (items : List α) :
    items.length ≤ (items.flatMap write).length := by
  induction items with
  | nil => simp
  | cons item others inductionHypothesis =>
      have itemNonempty := nonempty item
      simp only [List.length_cons, List.flatMap_cons, List.length_append]
      omega

theorem list_readsBack_of_count
    {item : Reader α}
    {write : α → Bytes}
    {items : List α}
    (count : items.length < LittleEndian.capacity 8)
    (eachReads : ∀ present ∈ items, item.ReadsBack (write present) present) :
    (Reader.list item).ReadsBack (writeList write items) items :=
  (number_readsBack count).bind (FrontReader.ReadsBack.items eachReads [])

theorem list_readsBack
    {item : Reader α}
    {write : α → Bytes}
    {items : List α}
    (nonempty : ∀ present, 0 < (write present).length)
    (countable : Countable (writeList write items))
    (itemReads : ∀ present ∈ items, Countable (write present) →
      item.ReadsBack (write present) present) :
    (Reader.list item).ReadsBack (writeList write items) items := by
  have count : items.length < LittleEndian.capacity 8 :=
    Nat.lt_of_le_of_lt (length_le_length_flatMap nonempty items) countable.right
  exact list_readsBack_of_count count fun present member =>
    itemReads present member (countable.right.of_mem_flatMap member)

theorem list_restores
    {item : Reader α}
    {write : α → Bytes}
    (itemRestores : Restores item write)
    (nonempty : ∀ item, 0 < (write item).length) :
    Restores (Reader.list item) (writeList write) :=
  fun _ countable => list_readsBack nonempty countable fun present _ => itemRestores present

/-- A key, then what stands under it. -/
theorem entry_readsBack
    {readKey : Reader key}
    {readValue : Reader value}
    {left right : Bytes}
    {entry : key × value}
    (keyReads : readKey.ReadsBack left entry.1)
    (valueReads : readValue.ReadsBack right entry.2) :
    (do let key ← readKey; return (key, ← readValue) : Reader (key × value)).ReadsBack
      (left ++ right) entry :=
  keyReads.bind (valueReads.bind_nil (FrontReader.readsBack_pure entry))

/-- A map is read back if its values are, each from what is written for it. -/
theorem map_readsBack
    [OrderedKey key]
    {readKey : Reader key}
    {writeKey : key → Bytes}
    {readValue : Reader value}
    (writeFor : key → value → Bytes)
    (map : KeyedMap key value)
    (keyRestores : Restores readKey writeKey)
    (keyNonempty : ∀ present, 0 < (writeKey present).length)
    (valueReads : ∀ entry ∈ map.entries, Countable (writeFor entry.1 entry.2) →
      readValue.ReadsBack (writeFor entry.1 entry.2) entry.2)
    (countable : Countable
      (writeList (fun entry => writeKey entry.1 ++ writeFor entry.1 entry.2) map.entries)) :
    (Reader.map readKey readValue).ReadsBack
      (writeList (fun entry => writeKey entry.1 ++ writeFor entry.1 entry.2) map.entries) map := by
  have entryNonempty :
      ∀ entry : key × value, 0 < (writeKey entry.1 ++ writeFor entry.1 entry.2).length := by
    intro entry
    have keyBytes := keyNonempty entry.1
    rw [List.length_append]
    omega
  have entryReads : ∀ entry ∈ map.entries,
      Countable (writeKey entry.1 ++ writeFor entry.1 entry.2) →
        (do let key ← readKey; return (key, ← readValue) : Reader (key × value)).ReadsBack
          (writeKey entry.1 ++ writeFor entry.1 entry.2) entry := by
    intro entry member entryCountable
    exact entry_readsBack (keyRestores entry.1 entryCountable.left)
      (valueReads entry member entryCountable.right)
  refine (list_readsBack entryNonempty countable entryReads).bind_nil ?_
  rw [KeyedMap.ofList_entries]
  exact FrontReader.readsBack_pure map

theorem map_restores
    [OrderedKey key]
    {readKey : Reader key}
    {writeKey : key → Bytes}
    {readValue : Reader value}
    {writeValue : value → Bytes}
    (keyRestores : Restores readKey writeKey)
    (keyNonempty : ∀ present, 0 < (writeKey present).length)
    (valueRestores : Restores readValue writeValue) :
    Restores (Reader.map readKey readValue) (writeMap writeKey writeValue) :=
  fun map => map_readsBack (fun _ => writeValue) map keyRestores keyNonempty
    fun entry _ => valueRestores entry.2

/-! ## Whole byte strings -/

theorem whole_eq_ok_iff {reader : Reader α} {bytes : Bytes} {decoded : α} :
    reader.whole bytes = .ok decoded ↔ reader bytes = .ok (decoded, []) := by
  unfold Reader.whole
  split
  · next refused => simp [refused]
  · next found rest isRead =>
      rw [isRead]
      cases rest with
      | nil => simp
      | cons first others => simp

theorem whole_of_readsBack
    {reader : Reader α}
    {bytes : Bytes}
    {restored : α}
    (reads : reader.ReadsBack bytes restored) :
    reader.whole bytes = .ok restored := by
  have exact := reads []
  rw [List.append_nil] at exact
  exact whole_eq_ok_iff.mpr exact

theorem limited_eq_ok_iff {written bytes : Bytes} :
    limited written = .ok bytes ↔ bytes = written ∧ written.length ≤ writeLimit := by
  unfold limited
  split
  · next tooLong =>
      constructor
      · intro impossible
        cases impossible
      · rintro ⟨_, fits⟩
        exact absurd tooLong (Nat.not_lt.mpr fits)
  · next fits =>
      constructor
      · intro passed
        cases passed
        exact ⟨rfl, Nat.not_lt.mp fits⟩
      · rintro ⟨rfl, _⟩
        rfl

/-- What keeps to the limit has a length that can be counted. -/
theorem countable_of_le_limit {written : Bytes} (fits : written.length ≤ writeLimit) :
    Countable written :=
  Nat.lt_of_le_of_lt fits (by decide)

/-! ## Versioned byte strings -/

theorem read_eq_ok_iff {body : Reader α} {bytes : Bytes} {decoded : α} :
    read body bytes = .ok decoded ↔
      (versioned body).whole bytes = .ok (currentVersion, decoded) := by
  unfold read
  split
  · next refused => simp [refused]
  · next version found accepted =>
      rw [accepted]
      split
      · next current => simp [current]
      · next other => simp [other]

/-- A snapshot is read as what its body is read back as. -/
theorem read_of_readsBack
    {body : Reader α}
    {written bytes : Bytes}
    {restored : α}
    (bodyReads : Countable written → body.ReadsBack written restored)
    (isWritten : write written = .ok bytes) :
    read body bytes = .ok restored := by
  obtain ⟨rfl, fits⟩ := limited_eq_ok_iff.mp isWritten
  have countable := countable_of_le_limit fits
  have versionReads :
      (Reader.fixedNumber 4).ReadsBack (LittleEndian.encode 4 currentVersion) currentVersion :=
    fixedNumber_readsBack (by decide)
  have allReads :
      (versioned body).ReadsBack (LittleEndian.encode 4 currentVersion ++ written)
        (currentVersion, restored) :=
    versionReads.bind ((bodyReads countable.right).bind_nil (FrontReader.readsBack_pure _))
  exact read_eq_ok_iff.mpr (whole_of_readsBack allReads)

end BlockCustody.Snapshot
