import BlockCustody.Snapshot.Format

/-!
Contract: snapshots as versioned byte strings.

Owns:
- the version number in front of every snapshot;
- the limit on the length of what is written;
- the order in which a restored snapshot is judged: its fields, then that
  nothing follows them, then its version.

Does not own: the fields of any component.
-/

namespace BlockCustody.Snapshot

/-- The version written and the only one read. -/
def currentVersion : Nat := 1

/-- Nothing longer than this is written. -/
def writeLimit : Nat := 0x100000000

inductive WriteFault where
  | tooLong
deriving DecidableEq, Repr

def WriteFault.message : WriteFault → String
  | .tooLong => "the size limit has been reached"

inductive ReadFault where
  | format (fault : FormatFault)
  | unsupportedVersion (version : Nat)
deriving DecidableEq, Repr

def ReadFault.message : ReadFault → String
  | .format fault => fault.message
  | .unsupportedVersion version => "unsupported snapshot version " ++ toString version

/-- Lets written bytes pass if they keep to the limit. -/
def limited (written : Bytes) : Except WriteFault Bytes :=
  if writeLimit < written.length then .error .tooLong else .ok written

/-- A body, already written, as a snapshot. -/
def write (body : Bytes) : Except WriteFault Bytes :=
  limited (LittleEndian.encode 4 currentVersion ++ body)

def versioned {α : Type} (body : Reader α) : Reader (Nat × α) := do
  let version ← Reader.fixedNumber 4
  return (version, ← body)

def read {α : Type} (body : Reader α) (input : Bytes) : Except ReadFault α :=
  match (versioned body).whole input with
  | .error fault => .error (.format fault)
  | .ok (version, value) =>
      if version = currentVersion then .ok value else .error (.unsupportedVersion version)

/-- The wording of a snapshot that was refused for the given reason. -/
def malformed (reason : String) : String :=
  "Malformed state: " ++ reason

/-- The wording of a snapshot that could not be written. -/
def notWritten (fault : WriteFault) : String :=
  "Snapshot encoding failed: " ++ fault.message

end BlockCustody.Snapshot
