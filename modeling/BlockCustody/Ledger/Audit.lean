import BlockCustody.Ledger.Basic

/-!
Contract: the audit of a block's holder.

Owns: what is asked of whom, and the verdict on what comes back.

Does not own: how the question travels.
-/

namespace BlockCustody

inductive AuditOutcome where
  | passed
  | failed
  | unreachable
deriving DecidableEq, Repr

/-- A message and the peer it is for. -/
structure Request where
  peer : PeerId
  message : PeerMessage
deriving DecidableEq

namespace Ledger

/-- The question an audit asks: the challenge of the hour, to the block's holder. -/
def auditRequest (ledger : Ledger) (id : BlockId) (instant : Instant) :
    Except NoEvidence Request :=
  match ledger.challenge id instant with
  | .error fault => .error fault
  | .ok challenge =>
      match ledger.record? id with
      | none => .error { block := id, hour := none }
      | some record => .ok { peer := record.holder, message := .evidence challenge }

def auditVerdict
    (ledger : Ledger)
    (id : BlockId)
    (instant : Instant) :
    Except TransportFault PeerReply → Except NoEvidence AuditOutcome
  | .error _ => .ok .unreachable
  | .ok (.evidence response) =>
      if response.block = id then
        match ledger.verify response instant with
        | .error fault => .error fault
        | .ok true => .ok .passed
        | .ok false => .ok .failed
      else .ok .failed
  | .ok _ => .ok .failed

/-- Asks the holder of a block and judges the answer. Nothing is asked when there
is no challenge for the instant. -/
def audit
    (ledger : Ledger)
    (send : Request → Except TransportFault PeerReply)
    (id : BlockId)
    (instant : Instant) :
    Except NoEvidence AuditOutcome :=
  match ledger.auditRequest id instant with
  | .error fault => .error fault
  | .ok request => ledger.auditVerdict id instant (send request)

end Ledger

end BlockCustody
