import BlockCustody.Bytes.LittleEndian

/-!
Contract: the Poly1305 one-time authenticator.

Owns:
- evaluation of a message as a polynomial modulo 2^130 - 5;
- the 16-byte tag under a 32-byte one-time key.

Does not own: where the one-time key comes from, or what is authenticated.
-/

namespace BlockCustody.Sealing.Poly1305

def modulus : Nat := powerOfTwo 130 - 5

/-- The evaluation point: the first half of the key with 22 bits cleared. -/
def evaluationPoint (key : Bytes) : Nat :=
  LittleEndian.decode (key.take 16) &&& 0x0ffffffc0ffffffc0ffffffc0fffffff

/-- Horner's rule over blocks of sixteen bytes, each with a one put above its
last byte. The first argument bounds the number of blocks. -/
def accumulate (point : Nat) : Nat → Nat → Bytes → Nat
  | 0, sum, _ => sum
  | blocks + 1, sum, message =>
      match message with
      | [] => sum
      | _ :: _ =>
          let block := message.take 16
          let value := LittleEndian.decode block + LittleEndian.capacity block.length
          accumulate point blocks ((sum + value) * point % modulus) (message.drop 16)

/-- The tag of a message: the polynomial's value plus the second half of the key. -/
def tag (key message : Bytes) : Bytes :=
  let sum := accumulate (evaluationPoint key) (message.length / 16 + 1) 0 message
  LittleEndian.encode 16 (sum + LittleEndian.decode ((key.drop 16).take 16))

@[simp]
theorem length_tag (key message : Bytes) : (tag key message).length = 16 :=
  LittleEndian.length_encode 16 _

end BlockCustody.Sealing.Poly1305
