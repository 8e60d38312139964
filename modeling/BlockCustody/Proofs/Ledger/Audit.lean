import BlockCustody.Proofs.Content.Collision
import BlockCustody.Proofs.Ledger.History
import BlockCustody.Proofs.Ledger.Questions
import BlockCustody.Proofs.Text.Hex

/-!
Contract: what an audit finds out about a holder.

Owns:
- what follows from salted digests where no byte strings collide;
- the verdict on every possible answer, after every history of the ledger;
- that a holder passes with the block's own bytes and with no others.

Does not own: how many hours a block can be audited in.
-/

namespace BlockCustody

theorem saltedDigest_eq_iff
    {salt left right : Bytes}
    (noCollision : ¬ Collide (salt ++ left) (salt ++ right)) :
    saltedDigest salt left = saltedDigest salt right ↔ left = right := by
  constructor
  · intro sameText
    have sameDigest := Text.Hex.encode_injective sameText
    exact List.append_cancel_left (eq_of_hash_eq noCollision sameDigest)
  · rintro rfl
    rfl

/-- Without a collision, an answer from bytes that are held is the right one exactly
if they are the bytes that the proof is over. -/
theorem answer_eq_rightAnswer_iff
    {proof : HourlyProof}
    {payload held : Bytes}
    (isOver : proof.IsOver payload)
    (noCollision : ¬ Collide (proof.salt ++ held) (proof.salt ++ payload))
    (id : BlockId) :
    (proof.question id).answer held = proof.rightAnswer id ↔ held = payload := by
  rw [← saltedDigest_eq_iff noCollision, ← isOver]
  constructor
  · intro sameMessage
    exact Text.Utf8.encode_injective (congrArg EvidenceMessage.payload sameMessage)
  · intro sameText
    rw [EvidenceMessage.answer, HourlyProof.rightAnswer, ← sameText]
    rfl

namespace HourlyProof

variable {proof : HourlyProof} {id : BlockId} {outcome : Except TransportFault PeerReply}

theorem verdict_eq_unreachable_iff :
    proof.verdict id outcome = .unreachable ↔ ∃ fault, outcome = .error fault := by
  cases outcome with
  | error fault => simp [verdict]
  | ok reply =>
      simp only [verdict]
      split <;> simp

theorem verdict_eq_passed_iff :
    proof.verdict id outcome = .passed ↔ outcome = .ok (.evidence (proof.rightAnswer id)) := by
  cases outcome with
  | error fault => simp [verdict]
  | ok reply =>
      simp only [verdict]
      split
      · next right => simp [right]
      · next wrong => simp [wrong]

theorem verdict_eq_failed_iff :
    proof.verdict id outcome = .failed ↔
      ∃ reply, outcome = .ok reply ∧ reply ≠ .evidence (proof.rightAnswer id) := by
  cases outcome with
  | error fault => simp [verdict]
  | ok reply =>
      simp only [verdict]
      split
      · next right => simp [right]
      · next wrong => simp [wrong]

end HourlyProof

namespace Ledger

/-- The bytes behind a record are the bytes that have its id, if no others shown to
the ledger collide with them. -/
theorem MadeFrom.calendar_madeFrom
    {ledger : Ledger}
    {payloads : List Bytes}
    (made : ledger.MadeFrom payloads)
    {payload : Bytes}
    {record : BlockRecord}
    (recorded : ledger.record? (ContentId.ofContent payload) = some record)
    (noCollision : ∀ other ∈ payloads, ¬ Collide other payload) :
    record.calendar.MadeFrom payload := by
  obtain ⟨other, member, sameId, calendarMade⟩ := made _ record recorded
  have sameDigest := congrArg ContentId.bytes sameId
  have samePayload := eq_of_hash_eq (noCollision other member) sameDigest
  rwa [samePayload] at calendarMade

/-- An audit ends in a fault exactly where there is no proof to ask for. -/
theorem audit_eq_error_iff
    {ledger : Ledger}
    {id : BlockId}
    {instant : Instant}
    (send : Request → Except TransportFault PeerReply) :
    (∃ fault, ledger.audit send id instant = .error fault) ↔
      ledger.record? id = none ∨
        ∃ record, ledger.record? id = some record ∧ record.calendar.index? instant = none := by
  constructor
  · rintro ⟨fault, refused⟩
    cases recorded : ledger.record? id with
    | none => exact Or.inl rfl
    | some record =>
        refine Or.inr ⟨record, rfl, ?_⟩
        apply EvidenceCalendar.proofAt?_eq_none_iff.mp
        cases found : record.calendar.proofAt? instant with
        | none => rfl
        | some proof =>
            rw [(answersFrom_of_found recorded found).audit] at refused
            cases refused
  · rintro (unknown | ⟨record, recorded, noPlace⟩)
    · exact ⟨_, (refuses_unknown unknown).audit send⟩
    · exact ⟨_, (refuses_outside recorded noPlace).audit send⟩

/-- Nothing was asked where an audit ends in a fault. -/
theorem auditRequest_of_audit_eq_error
    {ledger : Ledger}
    {id : BlockId}
    {instant : Instant}
    {send : Request → Except TransportFault PeerReply}
    {fault : NoEvidence}
    (refused : ledger.audit send id instant = .error fault) :
    fault.block = id ∧ ledger.auditRequest id instant = .error fault := by
  rcases (audit_eq_error_iff send).mp ⟨fault, refused⟩ with unknown | ⟨record, recorded, noPlace⟩
  · have refuses : ledger.Refuses instant { block := id, hour := none } := refuses_unknown unknown
    rw [refuses.audit, Except.error.injEq] at refused
    subst refused
    exact ⟨rfl, refuses.auditRequest⟩
  · have refuses := refuses_outside recorded noPlace
    rw [refuses.audit, Except.error.injEq] at refused
    subst refused
    exact ⟨rfl, refuses.auditRequest⟩

/-- After any history, an audit of a block at an instant fails for want of evidence,
with nothing asked, exactly if the block is unknown or the instant lies in no hour of
its calendar. Otherwise the holder on record is asked with the salt of that hour; it
is unreachable exactly if no reply comes, passes exactly if the reply is the one right
answer, and fails with any other reply. Where no collision is at hand, a holder that
answers from bytes it holds passes exactly if they are the bytes that were added. -/
theorem audit_passes_only_the_right_answer
    (settings : ProofSettings)
    (salts : SaltStream)
    (history : List LedgerEvent)
    (ledger : Ledger)
    (isAfter : ledger = (empty settings salts).run history)
    (id : BlockId)
    (instant : Instant) :
    (∀ send,
      (∃ fault, ledger.audit send id instant = .error fault) ↔
        ledger.record? id = none ∨
          ∃ record, ledger.record? id = some record ∧ record.calendar.index? instant = none) ∧
    (∀ send fault, ledger.audit send id instant = .error fault →
      fault.block = id ∧ ledger.auditRequest id instant = .error fault) ∧
    ∀ record index, ledger.record? id = some record →
      record.calendar.index? instant = some index →
      ∃ proof, record.calendar.proofs[index]? = some proof ∧
        ∃ request,
          request = { peer := record.holder, message := .evidence (proof.question id) } ∧
          ledger.auditRequest id instant = .ok request ∧
          (∀ send,
            (ledger.audit send id instant = .ok .unreachable ↔
              ∃ fault, send request = .error fault) ∧
            (ledger.audit send id instant = .ok .passed ↔
              send request = .ok (.evidence (proof.rightAnswer id))) ∧
            (ledger.audit send id instant = .ok .failed ↔
              ∃ reply, send request = .ok reply ∧ reply ≠ .evidence (proof.rightAnswer id))) ∧
          ∀ payload held send,
            ContentId.ofContent payload = id →
            (∀ other ∈ payloadsOf history, ¬ Collide other payload) →
            ¬ Collide (proof.salt ++ held) (proof.salt ++ payload) →
            send request = .ok (.evidence ((proof.question id).answer held)) →
            (ledger.audit send id instant = .ok .passed ↔ held = payload) := by
  refine ⟨audit_eq_error_iff, fun _ _ => auditRequest_of_audit_eq_error, ?_⟩
  intro record index recorded place
  have inside := (EvidenceCalendar.index?_eq_some_iff.mp place).2
  have isProof : record.calendar.proofs[index]? = some record.calendar.proofs[index] :=
    List.getElem?_eq_getElem inside
  have found : record.calendar.proofAt? instant = some record.calendar.proofs[index] := by
    rw [EvidenceCalendar.proofAt?, place, Option.bind_some, EvidenceCalendar.proof?, isProof]
  generalize record.calendar.proofs[index] = proof at isProof found
  have answers := answersFrom_of_found recorded found
  have passes : ∀ send,
      ledger.audit send id instant = .ok .passed ↔
        send { peer := record.holder, message := .evidence (proof.question id) } =
          .ok (.evidence (proof.rightAnswer id)) := by
    intro send
    rw [answers.audit, Except.ok.injEq, HourlyProof.verdict_eq_passed_iff]
  refine ⟨proof, isProof, _, rfl, answers.auditRequest, ?_, ?_⟩
  · intro send
    refine ⟨?_, passes send, ?_⟩
    · rw [answers.audit, Except.ok.injEq, HourlyProof.verdict_eq_unreachable_iff]
    · rw [answers.audit, Except.ok.injEq, HourlyProof.verdict_eq_failed_iff]
  · intro payload held send isId noOther noCollision sent
    subst isId isAfter
    have made := run_empty_madeFrom settings salts history
    have isOver :=
      (made.calendar_madeFrom recorded noOther).isOver proof (List.mem_of_getElem? isProof)
    rw [passes, sent, Except.ok.injEq, PeerReply.evidence.injEq]
    exact answer_eq_rightAnswer_iff isOver noCollision _

/-- A holder that answers every challenge from the bytes it holds. -/
def answeringFrom (held : Bytes) (request : Request) : Except TransportFault PeerReply :=
  match request.message with
  | .evidence challenge => .ok (.evidence (challenge.answer held))
  | _ => .ok .acknowledged

/-- One block is added at five past two, another one is taken out, and the ledger is
restarted. -/
def auditedHistory : List LedgerEvent :=
  [.added ((Instant.of? 7500 0).get (by decide)) [1, 2, 3] [] (PeerId.ofByte 7)
      ((Instant.of? 20000 0).get (by decide)),
    .removed (ContentId.ofContent [4]),
    .restarted { saltLength := 9, maxWindowHours := 0 } (SaltStream.ofSeed 8)]

theorem audit_of_audited_history_tells_holders_apart :
    ∃ ledger id instant,
      ledger = (empty { saltLength := 4, maxWindowHours := 9 } (SaltStream.ofSeed 7)).run
        auditedHistory ∧
      ledger.audit (answeringFrom [1, 2, 3]) id instant = .ok .passed ∧
      ledger.audit (answeringFrom [1, 2, 4]) id instant ≠ .ok .passed := by
  let settings : ProofSettings := { saltLength := 4, maxWindowHours := 9 }
  let ledger := (empty settings (SaltStream.ofSeed 7)).run auditedHistory
  let id := ContentId.ofContent [1, 2, 3]
  let instant := (Instant.of? 12000 0).get (by decide)
  have isRecorded : (ledger.record? id).isSome = true := by decide +kernel
  obtain ⟨record, recorded⟩ := Option.isSome_iff_exists.mp isRecorded
  have calendarHas :
      (ledger.record? id).map (fun record =>
          (record.calendar.index? instant, record.calendar.proofs[1]?)) =
        some (some 1, some (EvidenceCalendar.proofOf [1, 2, 3] [68, 35, 103, 82])) := by
    decide +kernel
  rw [recorded, Option.map_some, Option.some.injEq, Prod.mk.injEq] at calendarHas
  obtain ⟨_, _, judged⟩ :=
    audit_passes_only_the_right_answer settings (SaltStream.ofSeed 7) auditedHistory ledger rfl
      id instant
  obtain ⟨proof, isProof, request, isRequest, _, _, tellsApart⟩ :=
    judged record 1 recorded calendarHas.1
  rw [calendarHas.2, Option.some.injEq] at isProof
  subst isProof isRequest
  have noOther : ∀ other ∈ payloadsOf auditedHistory, ¬ Collide other [1, 2, 3] := by
    decide +kernel
  refine ⟨ledger, id, instant, rfl, ?_, ?_⟩
  · exact (tellsApart [1, 2, 3] [1, 2, 3] _ rfl noOther (by decide +kernel) rfl).mpr rfl
  · intro passed
    have same := (tellsApart [1, 2, 3] [1, 2, 4] _ rfl noOther (by decide +kernel) rfl).mp passed
    exact absurd same (by decide)

end Ledger

end BlockCustody
