import BlockCustody.Proofs.Reading.Steady
import BlockCustody.Proofs.Snapshot.OnlyWritten
import BlockCustody.Proofs.Snapshot.Restoring

/-!
Contract: written values say themselves where they end.

Owns:
- the faults of input that has ended too early;
- that every reader of the binary format is steady short of them;
- what becomes of accepted bytes that are cut off or go on, versioned or not.

Does not own: the fields of any component.
-/

namespace BlockCustody.Snapshot

open FrontReader (Steady steady_pure steady_refuse)

/-- The input has ended before the value did. -/
def FormatFault.IsEnd : FormatFault → Prop
  | .endOfInput => True
  | .textCutOff => True
  | .bytesLeftOver => False
  | .flag _ => False
  | .choice _ _ => False
  | .text _ => False
  | .peer => False
  | .timestamp _ => False

/-- Whatever the reader has made of the input stands, unless the input has ended. -/
abbrev SelfDelimiting {α : Type} (reader : Reader α) : Prop :=
  reader.Steady FormatFault.IsEnd

variable {α key value : Type}

/-! ## Parts of the format -/

theorem takeBytes_selfDelimiting (fault : FormatFault) (isEnd : fault.IsEnd) (count : Nat) :
    SelfDelimiting (Reader.takeBytes fault count) where
  value := by
    intro input taken rest isRead more
    simp only [Reader.takeBytes] at isRead ⊢
    split at isRead
    · cases isRead
    · next enough =>
        cases isRead
        rw [List.length_take] at enough
        have within : count ≤ input.length := by omega
        rw [List.take_append_of_le_length within, List.drop_append_of_le_length within,
          List.length_take, if_neg enough]
  fault := by
    intro input reason isRefused
    simp only [Reader.takeBytes] at isRefused
    split at isRefused
    · cases isRefused
      exact Or.inl isEnd
    · cases isRefused

theorem fixedNumber_selfDelimiting (width : Nat) : SelfDelimiting (Reader.fixedNumber width) :=
  (takeBytes_selfDelimiting .endOfInput trivial width).bind fun _ => steady_pure _

theorem number_selfDelimiting : SelfDelimiting Reader.number :=
  fixedNumber_selfDelimiting 8

theorem flag_selfDelimiting : SelfDelimiting Reader.flag := by
  refine (takeBytes_selfDelimiting .endOfInput trivial 1).bind fun taken => ?_
  split
  · exact steady_pure false
  · exact steady_pure true
  · exact steady_refuse _
  · exact steady_refuse _

theorem choice_selfDelimiting (count : Nat) : SelfDelimiting (Reader.choice count) := by
  refine (fixedNumber_selfDelimiting 4).bind fun index => ?_
  split
  · exact steady_pure index
  · exact steady_refuse _

theorem bytes_selfDelimiting : SelfDelimiting Reader.bytes :=
  number_selfDelimiting.bind fun count => takeBytes_selfDelimiting .endOfInput trivial count

theorem text_selfDelimiting : SelfDelimiting Reader.text := by
  refine number_selfDelimiting.bind fun count => ?_
  refine (takeBytes_selfDelimiting .textCutOff trivial count).bind fun content => ?_
  split
  · exact steady_pure _
  · exact steady_refuse _

theorem id_selfDelimiting : SelfDelimiting Reader.id := by
  refine (takeBytes_selfDelimiting .endOfInput trivial 32).bind fun taken => ?_
  split
  · exact steady_pure _
  · exact steady_refuse _

theorem peer_selfDelimiting : SelfDelimiting Reader.peer := by
  refine number_selfDelimiting.bind fun count => ?_
  refine (takeBytes_selfDelimiting .textCutOff trivial count).bind fun taken => ?_
  split
  · exact steady_pure _
  · exact steady_refuse _

theorem instant_selfDelimiting : SelfDelimiting Reader.instant := by
  refine text_selfDelimiting.bind fun text => ?_
  split
  · exact steady_pure _
  · exact steady_refuse _

theorem list_selfDelimiting {item : Reader α} (itemDelimits : SelfDelimiting item) :
    SelfDelimiting (Reader.list item) :=
  number_selfDelimiting.bind fun count => itemDelimits.items count []

theorem map_selfDelimiting
    [OrderedKey key]
    {readKey : Reader key}
    {readValue : Reader value}
    (keyDelimits : SelfDelimiting readKey)
    (valueDelimits : SelfDelimiting readValue) :
    SelfDelimiting (Reader.map readKey readValue) := by
  have entryDelimits : SelfDelimiting (do let key ← readKey; return (key, ← readValue)) :=
    keyDelimits.bind fun _ => valueDelimits.bind fun _ => steady_pure _
  exact (list_selfDelimiting entryDelimits).bind fun _ => steady_pure _

theorem set_selfDelimiting [OrderedKey key] {readKey : Reader key}
    (keyDelimits : SelfDelimiting readKey) : SelfDelimiting (Reader.set readKey) :=
  (list_selfDelimiting keyDelimits).bind fun _ => steady_pure _

theorem versioned_selfDelimiting {body : Reader α} (bodyDelimits : SelfDelimiting body) :
    SelfDelimiting (versioned body) :=
  (fixedNumber_selfDelimiting 4).bind fun _ => bodyDelimits.bind fun _ => steady_pure _

/-! ## Whole byte strings -/

/-- Of accepted bytes, none can be missing at the end and none added. What is cut off is
reported as ended too early, and what goes on as having bytes left over. -/
structure EndsExactly {fault : Type} (decode : Bytes → Except fault α)
    (report : FormatFault → fault) : Prop where
  cutOff : ∀ {bytes decoded}, decode bytes = .ok decoded →
    ∀ kept lost, bytes = kept ++ lost → lost ≠ [] →
      ∃ reason, reason.IsEnd ∧ decode kept = .error (report reason)
  goesOn : ∀ {bytes decoded}, decode bytes = .ok decoded →
    ∀ more, more ≠ [] → decode (bytes ++ more) = .error (report .bytesLeftOver)

/-- A decoder that passes on what another refuses, and judges what the other accepts. -/
theorem EndsExactly.judged
    {fault other β : Type}
    {decode : Bytes → Except fault α}
    {report : FormatFault → fault}
    (ends : EndsExactly decode report)
    {judged : Bytes → Except other β}
    {wrap : fault → other}
    (passesOn : ∀ {bytes reason}, decode bytes = .error reason →
      judged bytes = .error (wrap reason)) :
    EndsExactly judged fun reason => wrap (report reason) := by
  have wasDecoded : ∀ {bytes result}, judged bytes = .ok result →
      ∃ decoded, decode bytes = .ok decoded := by
    intro bytes result accepted
    cases isDecoded : decode bytes with
    | error reason =>
        rw [passesOn isDecoded] at accepted
        cases accepted
    | ok decoded => exact ⟨decoded, rfl⟩
  constructor
  · intro bytes result accepted kept lost isBytes someLost
    obtain ⟨decoded, isDecoded⟩ := wasDecoded accepted
    obtain ⟨reason, isEnd, refused⟩ := ends.cutOff isDecoded kept lost isBytes someLost
    exact ⟨reason, isEnd, passesOn refused⟩
  · intro bytes result accepted more someMore
    obtain ⟨decoded, isDecoded⟩ := wasDecoded accepted
    exact passesOn (ends.goesOn isDecoded more someMore)

theorem whole_endsExactly {reader : Reader α} (delimits : SelfDelimiting reader) :
    EndsExactly reader.whole id where
  cutOff := by
    rintro bytes decoded accepted kept lost rfl someLost
    have isRead := whole_eq_ok_iff.mp accepted
    unfold Reader.whole
    cases keptRead : reader kept with
    | error reason =>
        rcases delimits.fault keptRead with isEnd | stands
        · exact ⟨reason, isEnd, rfl⟩
        · rw [stands lost] at isRead
          cases isRead
    | ok read =>
        -- A value found in the part that is kept would leave the lost part over.
        rw [delimits.value keptRead lost, Except.ok.injEq, Prod.mk.injEq] at isRead
        exact absurd (List.append_eq_nil_iff.mp isRead.2).2 someLost
  goesOn := by
    intro bytes decoded accepted more someMore
    have isRead := delimits.value (whole_eq_ok_iff.mp accepted) more
    unfold Reader.whole
    rw [isRead, List.nil_append]
    cases more with
    | nil => exact absurd rfl someMore
    | cons first others => rfl

/-! ## Versioned byte strings -/

theorem read_endsExactly {body : Reader α} (bodyDelimits : SelfDelimiting body) :
    EndsExactly (read body) .format :=
  (whole_endsExactly (versioned_selfDelimiting bodyDelimits)).judged fun refused => by
    rw [read, refused]

/-- A number that was read is what its bytes are written for. -/
theorem take_of_fixedNumber {width number : Nat} {bytes rest : Bytes}
    (isRead : Reader.fixedNumber width bytes = .ok (number, rest)) :
    bytes.take width = LittleEndian.encode width number := by
  obtain ⟨_, ⟨_, rfl⟩, rfl⟩ := fixedNumber_readsOnly width _ _ _ isRead
  exact List.take_left' (LittleEndian.length_encode width number)

/-- Nothing is read as a snapshot that does not begin with the current version. -/
theorem take_of_read {body : Reader α} {bytes : Bytes} {decoded : α}
    (accepted : read body bytes = .ok decoded) :
    bytes.take 4 = LittleEndian.encode 4 currentVersion := by
  have isRead := whole_eq_ok_iff.mp (read_eq_ok_iff.mp accepted)
  rw [versioned, FrontReader.bind_apply] at isRead
  split at isRead
  · cases isRead
  · next version rest versionRead =>
      rw [FrontReader.bind_apply] at isRead
      split at isRead
      · cases isRead
      · cases isRead
        exact take_of_fixedNumber versionRead

end BlockCustody.Snapshot
