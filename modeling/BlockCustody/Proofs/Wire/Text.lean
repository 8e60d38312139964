import BlockCustody.Proofs.Content.Id
import BlockCustody.Proofs.Json.Composite
import BlockCustody.Wire.Text

/-!
Contract: messages between peers are read back from their texts.

Owns:
- that the texts of ids, bytes, evidence, messages and replies stand for them;
- that texts tell messages apart, and halves of an audit in particular;
- that a message read from any text, however spaced, ordered or escaped, is the one its own
  text names.

Does not own: which other texts are accepted.
-/

namespace BlockCustody

open Json

namespace Wire

/-! ## Ids and bytes -/

theorem byte_textOf (number : UInt8) : TextOf byte (writeByte number) number := by
  have within : byteKind.least ≤ (number.toNat : Int) ∧
      (number.toNat : Int) ≤ byteKind.greatest := by
    have small := number.toNat_lt
    simp only [byteKind]
    omega
  have fits : number.toNat < 0x10000000000000000 :=
    Nat.lt_trans number.toNat_lt (by decide)
  refine (integer_textOf within fits).bind_nil ?_
  simp only [Int.toNat_natCast, Nat.toUInt8_eq, UInt8.ofNat_toNat]
  exact FrontReader.readsBack_pure number

theorem bytes_textOf (data : Bytes) : TextOf bytes (writeBytes data) data :=
  list_textOf fun number _ => byte_textOf number

theorem contentId_textOf (id : ContentId) : TextOf contentId (writeId id) id := by
  have areRead : TextOf (listOfLength 32 byte) (writeBytes id.bytes) id.bytes :=
    listOfLength_textOf (fun number _ => byte_textOf number) id.length_bytes
  refine areRead.bind_nil ?_
  rw [ContentId.ofBytes?_bytes]
  exact FrontReader.readsBack_pure id

/-! ## Records of one and two parts -/

section Shapes

variable {part other : Type} {reader : Json.Reader part} {text : List Char} {value : part}

theorem singleShape_textOf
    (title name : String)
    (make : part → other)
    (isText : TextOf reader text value) :
    TextOf (mapShape (singleShape title name reader) make).read (writeObject [(name, text)])
      (make value) := by
  have isField : [onlyField name reader].find? (fun field => field.name = name) =
      some (onlyField name reader) := by
    simp [onlyField]
  refine Shape.textOf_writeObject (.member isField rfl (isText.map some) .done) ?_
  rfl

theorem blockShape_textOf
    (title : String)
    (make : BlockId × Bytes → other)
    (block : BlockId)
    (data : Bytes) :
    TextOf (mapShape (blockShape title) make).read
      (writeObject [("block_id", writeId block), ("data", writeBytes data)])
      (make (block, data)) := by
  have blockText : TextOf (do return (some (← contentId), none)) (writeId block)
      (some block, (none : Option Bytes)) :=
    (contentId_textOf block).map fun block => (some block, none)
  have dataText : TextOf (do return (some block, some (← bytes))) (writeBytes data)
      (some block, some data) :=
    (bytes_textOf data).map fun data => (some block, some data)
  refine Shape.textOf_writeObject (.member rfl rfl blockText (.member rfl rfl dataText .done)) ?_
  rfl

end Shapes

end Wire

open Wire

/-! ## Evidence -/

theorem EvidenceKind.name_textOf (kind : EvidenceKind) :
    TextOf EvidenceKind.reader (writeQuoted kind.name) kind := by
  cases kind with
  | challenge => exact oneOf_textOf_name rfl rfl
  | response => exact oneOf_textOf_name rfl rfl

theorem EvidenceMessage.written_textOf (message : EvidenceMessage) :
    TextOf EvidenceMessage.shape.read message.written message := by
  obtain ⟨block, kind, payload⟩ := message
  have blockText := (contentId_textOf block).map fun block =>
    ({ block := some block, kind := none, payload := none } : EvidenceDraft)
  have kindText := kind.name_textOf.map fun kind =>
    ({ block := some block, kind := some kind, payload := none } : EvidenceDraft)
  have payloadText := (bytes_textOf payload).map fun payload =>
    ({ block := some block, kind := some kind, payload := some payload } : EvidenceDraft)
  refine Shape.textOf_writeObject (.member rfl rfl blockText
    (.member rfl rfl kindText (.member rfl rfl payloadText .done))) ?_
  rfl

/-! ## Messages and replies -/

theorem PeerMessage.written_textOf (message : PeerMessage) :
    TextOf PeerMessage.reader message.written message := by
  cases message with
  | storeBlock block data => exact oneOf_textOf_content rfl (blockShape_textOf _ _ block data)
  | fetchBlock block =>
      exact oneOf_textOf_content rfl (singleShape_textOf _ _ _ (contentId_textOf block))
  | deleteBlock block =>
      exact oneOf_textOf_content rfl (singleShape_textOf _ _ _ (contentId_textOf block))
  | evidence message =>
      exact oneOf_textOf_content rfl (message.written_textOf.map PeerMessage.evidence)
  | holdingShards shards =>
      have shardsText : TextOf (list contentId) (writeList writeId shards) shards :=
        list_textOf fun shard _ => contentId_textOf shard
      exact oneOf_textOf_content rfl (singleShape_textOf _ _ _ shardsText)

theorem PeerReply.written_textOf (reply : PeerReply) :
    TextOf PeerReply.reader reply.written reply := by
  cases reply with
  | acknowledged => exact oneOf_textOf_name rfl rfl
  | block stored data => exact oneOf_textOf_content rfl (blockShape_textOf _ _ stored data)
  | evidence message =>
      exact oneOf_textOf_content rfl (message.written_textOf.map PeerReply.evidence)
  | refused reason =>
      exact oneOf_textOf_content rfl (singleShape_textOf _ _ _ (string_textOf _ reason))

/-! ## Texts -/

/-- Texts name the messages they are written for: each message is read back from its own, no
two have the same, and what was read from any text at all is read back from its own as well. -/
structure TextsName {message : Type} (toText : message → String)
    (ofText : String → Except Fault message) : Prop where
  readsBack : ∀ sent, ofText (toText sent) = .ok sent
  distinct : Function.Injective toText
  settles : ∀ text received, ofText text = .ok received → ofText (toText received) = .ok received

theorem textsName_of_readsBack
    {message : Type}
    {toText : message → String}
    {ofText : String → Except Fault message}
    (readsBack : ∀ sent, ofText (toText sent) = .ok sent) :
    TextsName toText ofText where
  readsBack := readsBack
  distinct := by
    intro left right sameText
    have leftRead := readsBack left
    rw [sameText, readsBack right] at leftRead
    injection leftRead with same
    exact same.symm
  settles := fun _ received _ => readsBack received

/-- Evidence, messages and replies are all named by their texts, and a challenge is never
taken for a response, or a response for a challenge, however it is sent. -/
theorem messages_are_read_back_from_their_texts :
    TextsName EvidenceMessage.toText EvidenceMessage.ofText ∧
      TextsName PeerMessage.toText PeerMessage.ofText ∧
      TextsName PeerReply.toText PeerReply.ofText ∧
      ∀ sent received : EvidenceMessage,
        EvidenceMessage.ofText sent.toText = .ok received ∨
          PeerMessage.ofText (PeerMessage.evidence sent).toText = .ok (.evidence received) ∨
          PeerReply.ofText (PeerReply.evidence sent).toText = .ok (.evidence received) →
        received.kind = sent.kind := by
  have evidenceReadsBack : ∀ sent : EvidenceMessage,
      EvidenceMessage.ofText sent.toText = .ok sent :=
    fun sent => whole_ofList sent.written_textOf
  have messageReadsBack : ∀ sent : PeerMessage, PeerMessage.ofText sent.toText = .ok sent :=
    fun sent => whole_ofList sent.written_textOf
  have replyReadsBack : ∀ sent : PeerReply, PeerReply.ofText sent.toText = .ok sent :=
    fun sent => whole_ofList sent.written_textOf
  refine ⟨textsName_of_readsBack evidenceReadsBack, textsName_of_readsBack messageReadsBack,
    textsName_of_readsBack replyReadsBack, ?_⟩
  rintro sent received (alone | inMessage | inReply)
  · rw [evidenceReadsBack] at alone
    cases alone
    rfl
  · rw [messageReadsBack] at inMessage
    cases inMessage
    rfl
  · rw [replyReadsBack] at inReply
    cases inReply
    rfl

/-- A refusal with blanks between its parts and more escapes than need be. -/
def spacedRefusal : String :=
  " \x7b\"Refused\" : \x7b \"reason\":\"\\u006e\\u006F:\\n\\\"\\/\\\"\"\x7d \x7d\n"

theorem refusal_is_read_back_from_text_of_its_own :
    PeerReply.ofText spacedRefusal = .ok (.refused "no:\n\"/\"") ∧
      (PeerReply.refused "no:\n\"/\"").toText ≠ spacedRefusal ∧
      PeerReply.ofText (PeerReply.refused "no:\n\"/\"").toText = .ok (.refused "no:\n\"/\"") ∧
      ∃ received : EvidenceMessage,
        PeerMessage.ofText
            (PeerMessage.evidence
              { block := .repeating 200, kind := .challenge, payload := [0, 255] }).toText =
          .ok (.evidence received) ∧
        received.kind = .challenge := by
  obtain ⟨_, messagesNamed, repliesNamed, kindsKept⟩ := messages_are_read_back_from_their_texts
  have isAccepted : PeerReply.ofText spacedRefusal = .ok (.refused "no:\n\"/\"") := by
    decide +kernel
  have challengeRead := messagesNamed.readsBack
    (.evidence { block := .repeating 200, kind := .challenge, payload := [0, 255] })
  exact ⟨isAccepted, by decide +kernel, repliesNamed.settles _ _ isAccepted, _, challengeRead,
    kindsKept _ _ (Or.inr (Or.inl challengeRead))⟩

end BlockCustody
