import BlockCustody.Bytes.LittleEndian

/-!
Contract: identities of peers.

Owns:
- the accepted byte form: a code, a size and a digest of that size;
- base-58 text: the alphabet without look-alikes, and writing, where every leading
  zero byte becomes one leading digit for zero.

Does not own: how an identity is proved over a connection, and the reading of base-58
text, which nothing in the library needs.
-/

namespace BlockCustody

namespace Text.Base58

def alphabet : List Char :=
  "123456789ABCDEFGHJKLMNPQRSTUVWXYZabcdefghijkmnopqrstuvwxyz".toList

/-- The digits of a number, put in front of digits already written. The first
argument bounds their number. -/
def digits : Nat → Nat → List Char → List Char
  | 0, _, written => written
  | limit + 1, value, written =>
      if value = 0 then written
      else digits limit (value / 58) (alphabet.getD (value % 58) '1' :: written)

def encode (bytes : Bytes) : String :=
  let zeros := bytes.takeWhile (· = 0)
  let value := LittleEndian.decode bytes.reverse
  String.ofList (zeros.map (fun _ => '1') ++ digits (2 * bytes.length) value [])

end Text.Base58

/-- The byte strings that identify a peer: a SHA2-256 digest marked 0x12, or
short inline data marked 0. The size byte counts what follows it. -/
def PeerId.WellFormed : Bytes → Prop
  | code :: size :: digest =>
      digest.length = size.toNat ∧ (code = 0x12 ∧ size ≤ 64 ∨ code = 0 ∧ size ≤ 42)
  | _ => False

instance PeerId.decidableWellFormed : (bytes : Bytes) → Decidable (PeerId.WellFormed bytes)
  | code :: size :: digest =>
      inferInstanceAs
        (Decidable (digest.length = size.toNat ∧
          (code = 0x12 ∧ size ≤ 64 ∨ code = 0 ∧ size ≤ 42)))
  | [] => .isFalse id
  | [_] => .isFalse id

/-- The identity of a peer. -/
structure PeerId where
  bytes : Bytes
  wellFormed : PeerId.WellFormed bytes
deriving DecidableEq

namespace PeerId

/-- A byte string as an identity, if it has the form of one. -/
def ofBytes? (bytes : Bytes) : Option PeerId :=
  if wellFormed : WellFormed bytes then some { bytes, wellFormed } else none

/-- The peer whose identity is a single inline byte. -/
def ofByte (byte : UInt8) : PeerId :=
  { bytes := [0, 1, byte], wellFormed := ⟨rfl, Or.inr ⟨rfl, by decide⟩⟩ }

/-- The text by which people see a peer. -/
def toText (peer : PeerId) : String :=
  Text.Base58.encode peer.bytes

end PeerId

end BlockCustody
