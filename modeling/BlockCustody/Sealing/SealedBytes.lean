import BlockCustody.Digest.Blake3
import BlockCustody.Sealing.ChaCha20
import BlockCustody.Sealing.Poly1305

/-!
Contract: authenticated encryption of byte strings under a 32-byte key.

Owns:
- the sealed form: nonce of 24 bytes, ciphertext, tag of 16 bytes;
- sealing under a given nonce, and under one derived from key and content;
- opening, which recomputes the tag before anything is decrypted.

Does not own: the keys, and what the sealed bytes mean.
-/

namespace BlockCustody.Sealing

/-- A secret of 32 bytes shared by both ends of a storage relationship. -/
structure BlockKey where
  bytes : Bytes
  length_bytes : bytes.length = 32

def BlockKey.ofBytes? (bytes : Bytes) : Option BlockKey :=
  if length_bytes : bytes.length = 32 then some { bytes, length_bytes } else none

structure Nonce where
  bytes : Bytes
  length_bytes : bytes.length = 24
deriving DecidableEq

def Nonce.ofBytes? (bytes : Bytes) : Option Nonce :=
  if length_bytes : bytes.length = 24 then some { bytes, length_bytes } else none

/-- Why bytes could not be sealed or opened. -/
inductive SealFault where
  | tooLong
  | notAuthentic
  | tooShort
deriving DecidableEq, Repr

def SealFault.message : SealFault → String
  | .tooLong => "Encryption failed"
  | .notAuthentic => "Decryption failed - data may be corrupted or key incorrect"
  | .tooShort => "Invalid ciphertext format"

/-- The number of keystream blocks one nonce provides for content. -/
def blockLimit : Nat := 0xFFFFFFFF

def keystream (key : BlockKey) (nonce : Nonce) (length : Nat) : Bytes :=
  ChaCha20.keystream (ChaCha20.streamState key.bytes nonce.bytes) length

/-- Combines each byte with the keystream byte at its place. Doing so twice gives
the bytes back. -/
def applyKeystream (key : BlockKey) (nonce : Nonce) (bytes : Bytes) : Bytes :=
  List.zipWith (· ^^^ ·) bytes (keystream key nonce bytes.length)

/-- What the authenticator reads: the ciphertext filled up to whole blocks of
sixteen bytes, then the lengths of the (empty) associated data and of the
ciphertext. -/
def authenticatedText (ciphertext : Bytes) : Bytes :=
  ciphertext ++ List.replicate ((16 - ciphertext.length % 16) % 16) 0 ++
    LittleEndian.encode 8 0 ++ LittleEndian.encode 8 ciphertext.length

def tag (key : BlockKey) (nonce : Nonce) (ciphertext : Bytes) : Bytes :=
  Poly1305.tag
    ((ChaCha20.block (ChaCha20.streamState key.bytes nonce.bytes) 0).take 32)
    (authenticatedText ciphertext)

def sealUnder (key : BlockKey) (nonce : Nonce) (content : Bytes) : Except SealFault Bytes :=
  if content.length / 64 ≥ blockLimit then .error .tooLong
  else
    let ciphertext := applyKeystream key nonce content
    .ok (nonce.bytes ++ ciphertext ++ tag key nonce ciphertext)

/-- The text that separates nonce derivation from other uses of the digest. -/
def nonceContext : Bytes :=
  "peer-backup block nonce v1".toUTF8.data.toList

/-- The nonce that belongs to content under a key: the same content under the
same key always gets the same one. -/
def contentNonce (key : BlockKey) (content : Bytes) : Nonce :=
  { bytes :=
      (Digest.Blake3.keyedHash (Digest.Blake3.deriveKey nonceContext key.bytes) content).take 24
    length_bytes := by simp }

/-- Seals content under the nonce that belongs to it, so that equal content
under one key is sealed to equal bytes. -/
def sealContent (key : BlockKey) (content : Bytes) : Except SealFault Bytes :=
  sealUnder key (contentNonce key content) content

/-- Opens sealed bytes. What is shorter than nonce and tag together has no
sealed form at all; anything else opens only if its tag is the right one. -/
def openSealed (key : BlockKey) (sealed : Bytes) : Except SealFault Bytes :=
  match Nonce.ofBytes? (sealed.take 24) with
  | none => .error .tooShort
  | some nonce =>
      let body := sealed.drop 24
      if body.length < 16 then .error .tooShort
      else
        let ciphertext := body.take (body.length - 16)
        if ciphertext.length / 64 ≥ blockLimit then .error .notAuthentic
        else if tag key nonce ciphertext = body.drop (body.length - 16) then
          .ok (applyKeystream key nonce ciphertext)
        else .error .notAuthentic

end BlockCustody.Sealing
