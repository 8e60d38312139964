import BlockCustody.Ledger.Audit
import BlockCustody.Proofs.Evidence.Calendar
import BlockCustody.Proofs.Text.Utf8

/-!
Contract: all questions about a block at an instant have one answer or one fault.

Owns:
- when there is a proof for a block at an instant, and the fault when there is none;
- that a fault is the fault of every question, and that nothing is asked of a holder;
- that every answer is judged against one proof.

Does not own: which blocks and hours have proofs.
-/

namespace BlockCustody

/-- The question that one proof asks a holder. -/
def HourlyProof.question (proof : HourlyProof) (id : BlockId) : EvidenceMessage :=
  { block := id, kind := .challenge, payload := proof.salt }

/-- The one message that answers it. -/
def HourlyProof.rightAnswer (proof : HourlyProof) (id : BlockId) : EvidenceMessage :=
  { block := id, kind := .response, payload := Text.Utf8.encode proof.expected }

/-- Only the right answer passes; what came back otherwise fails, and what did not
come back is no verdict on what is held. -/
def HourlyProof.verdict (proof : HourlyProof) (id : BlockId) :
    Except TransportFault PeerReply → AuditOutcome
  | .error _ => .unreachable
  | .ok reply => if reply = .evidence (proof.rightAnswer id) then .passed else .failed

namespace Ledger

/-- Every question about the block of a fault at an instant ends in the fault, and a
holder is asked nothing. -/
structure Refuses (ledger : Ledger) (instant : Instant) (fault : NoEvidence) : Prop where
  challengeSalt : ledger.challengeSalt fault.block instant = .error fault
  confirm : ∀ candidate, ledger.confirm fault.block instant candidate = .error fault
  challenge : ledger.challenge fault.block instant = .error fault
  verify : ∀ message, message.block = fault.block → ledger.verify message instant = .error fault
  auditRequest : ledger.auditRequest fault.block instant = .error fault
  audit : ∀ send, ledger.audit send fault.block instant = .error fault

/-- Every question about a block at an instant is answered from one proof, and the
holder is asked for the answer. -/
structure AnswersFrom
    (ledger : Ledger)
    (id : BlockId)
    (instant : Instant)
    (holder : PeerId)
    (proof : HourlyProof) : Prop where
  challengeSalt : ledger.challengeSalt id instant = .ok proof.salt
  confirm : ∀ candidate,
    ledger.confirm id instant candidate = .ok (decide (proof.expected = candidate))
  challenge : ledger.challenge id instant = .ok (proof.question id)
  verify : ∀ message, message.block = id →
    ledger.verify message instant = .ok (decide (message = proof.rightAnswer id))
  auditRequest : ledger.auditRequest id instant =
    .ok { peer := holder, message := .evidence (proof.question id) }
  audit : ∀ send, ledger.audit send id instant =
    .ok (proof.verdict id (send { peer := holder, message := .evidence (proof.question id) }))

variable {ledger : Ledger} {id : BlockId} {instant : Instant} {record : BlockRecord}

/-! ## When there is a proof -/

theorem proofAt_of_unknown (unknown : ledger.record? id = none) :
    ledger.proofAt id instant = .error { block := id, hour := none } := by
  rw [proofAt, unknown]

theorem proofAt_of_no_place
    (recorded : ledger.record? id = some record)
    (noPlace : record.calendar.index? instant = none) :
    ledger.proofAt id instant =
      .error { block := id, hour := some (record.calendar.hourOf instant) } := by
  simp only [proofAt, recorded, EvidenceCalendar.proofAt?_eq_none_iff.mpr noPlace]

theorem proofAt_of_found
    (recorded : ledger.record? id = some record)
    {proof : HourlyProof}
    (found : record.calendar.proofAt? instant = some proof) :
    ledger.proofAt id instant = .ok proof := by
  simp only [proofAt, recorded, found]

/-! ## Refusals -/

/-- Without a proof, all questions are refused alike. -/
theorem refuses_of_proofAt
    {fault : NoEvidence}
    (noProof : ledger.proofAt fault.block instant = .error fault) :
    ledger.Refuses instant fault := by
  have noSalt : ledger.challengeSalt fault.block instant = .error fault := by
    rw [challengeSalt, noProof]
  have noConfirmation :
      ∀ candidate, ledger.confirm fault.block instant candidate = .error fault := by
    intro candidate
    rw [confirm, noProof]
  have noChallenge : ledger.challenge fault.block instant = .error fault := by
    rw [challenge, noSalt]
  have noRequest : ledger.auditRequest fault.block instant = .error fault := by
    rw [auditRequest, noChallenge]
  refine ⟨noSalt, noConfirmation, noChallenge, ?_, noRequest, ?_⟩
  · intro message sameBlock
    unfold verify
    rw [sameBlock]
    split
    · exact noConfirmation _
    · rw [noProof]
  · intro send
    rw [audit, noRequest]

theorem refuses_unknown (unknown : ledger.record? id = none) :
    ledger.Refuses instant { block := id, hour := none } :=
  refuses_of_proofAt (proofAt_of_unknown unknown)

/-- Outside its calendar, the fault of a block names the hour that has no proof. -/
theorem refuses_outside
    (recorded : ledger.record? id = some record)
    (noPlace : record.calendar.index? instant = none) :
    ledger.Refuses instant { block := id, hour := some (record.calendar.hourOf instant) } :=
  refuses_of_proofAt (proofAt_of_no_place recorded noPlace)

/-! ## Answers -/

/-- The text of a response is the expected one exactly if the message is the right
answer. -/
theorem responseText?_eq_some_iff {proof : HourlyProof} {message : EvidenceMessage} :
    responseText? message = some proof.expected ↔ message = proof.rightAnswer message.block := by
  obtain ⟨block, kind, payload⟩ := message
  cases kind with
  | challenge => simp [responseText?, HourlyProof.rightAnswer]
  | response =>
      have decoded : (Text.Utf8.decode payload).toOption = some proof.expected ↔
          Text.Utf8.decode payload = .ok proof.expected := by
        cases Text.Utf8.decode payload <;> simp [Except.toOption]
      simp [responseText?, HourlyProof.rightAnswer, decoded, Text.Utf8.decode_eq_ok_iff]

theorem verify_of_proofAt
    {proof : HourlyProof}
    (isProof : ledger.proofAt id instant = .ok proof)
    {message : EvidenceMessage}
    (sameBlock : message.block = id) :
    ledger.verify message instant = .ok (decide (message = proof.rightAnswer id)) := by
  subst sameBlock
  have judged :
      responseText? message = some proof.expected ↔ message = proof.rightAnswer message.block :=
    responseText?_eq_some_iff
  unfold verify
  cases text : responseText? message with
  | none =>
      rw [text] at judged
      have wrong : message ≠ proof.rightAnswer message.block :=
        fun right => nomatch judged.mpr right
      simp [isProof, wrong]
  | some candidate =>
      rw [text, Option.some.injEq, eq_comm] at judged
      simp only [confirm, isProof]
      exact congrArg Except.ok (decide_eq_decide.mpr judged)

theorem auditVerdict_of_proofAt
    {proof : HourlyProof}
    (isProof : ledger.proofAt id instant = .ok proof)
    (answer : Except TransportFault PeerReply) :
    ledger.auditVerdict id instant answer = .ok (proof.verdict id answer) := by
  cases answer with
  | error fault => rfl
  | ok reply =>
      cases reply with
      | evidence response =>
          by_cases sameBlock : response.block = id
          · rw [auditVerdict, if_pos sameBlock, verify_of_proofAt isProof sameBlock]
            by_cases right : response = proof.rightAnswer id
            · simp [HourlyProof.verdict, right]
            · simp [HourlyProof.verdict, right]
          · have wrong : response ≠ proof.rightAnswer id := by
              rintro rfl
              exact sameBlock rfl
            simp [auditVerdict, sameBlock, HourlyProof.verdict, wrong]
      | acknowledged => rfl
      | block _ _ => rfl
      | refused _ => rfl

theorem answersFrom_of_found
    (recorded : ledger.record? id = some record)
    {proof : HourlyProof}
    (found : record.calendar.proofAt? instant = some proof) :
    ledger.AnswersFrom id instant record.holder proof := by
  have isProof := proofAt_of_found recorded found
  have isSalt : ledger.challengeSalt id instant = .ok proof.salt := by
    rw [challengeSalt, isProof]
  have isChallenge : ledger.challenge id instant = .ok (proof.question id) := by
    rw [challenge, isSalt]
    rfl
  have isRequest : ledger.auditRequest id instant =
      .ok { peer := record.holder, message := .evidence (proof.question id) } := by
    simp only [auditRequest, isChallenge, recorded]
  refine ⟨isSalt, ?_, isChallenge, ?_, isRequest, ?_⟩
  · intro candidate
    rw [confirm, isProof]
  · intro message sameBlock
    exact verify_of_proofAt isProof sameBlock
  · intro send
    rw [audit, isRequest]
    exact auditVerdict_of_proofAt isProof _

/-- A refusal that names an hour names the hour of the instant. -/
theorem hour_of_refuses
    (recorded : ledger.record? id = some record)
    {hour : Int}
    (refuses : ledger.Refuses instant { block := id, hour := some hour }) :
    hour = record.calendar.hourOf instant := by
  have refused := refuses.challengeSalt
  cases found : record.calendar.proofAt? instant with
  | none =>
      have noPlace := EvidenceCalendar.proofAt?_eq_none_iff.mp found
      rw [(refuses_outside recorded noPlace).challengeSalt] at refused
      cases refused
      rfl
  | some proof =>
      rw [(answersFrom_of_found recorded found).challengeSalt] at refused
      cases refused

end Ledger

end BlockCustody
