import BearerIdentity.Bytes
import BearerIdentity.Crypto.Gcm
import BearerIdentity.Error

set_option autoImplicit false

/- Encrypted frames: the length of the nonce in four bytes, the nonce, and the encrypted text with its
tag. -/

namespace BearerIdentity

structure Frame where
  nonce : Bytes
  cipherText : Bytes
  deriving DecidableEq, Repr

namespace Frame

def nonceLength : Nat := 16

def headLength : Nat := 4

/-- The greatest length of either part. -/
def partLimit : Nat := 16384

/-- The greatest length of a text that fits into a frame. -/
def payloadLimit : Nat := partLimit - Gcm.tagLength

def encode (frame : Frame) : Bytes :=
  Bytes.ofNat headLength frame.nonce.length ++ frame.nonce ++ frame.cipherText

def decode (bytes : Bytes) : Except FrameFlaw Frame :=
  let rest := bytes.drop headLength
  let length := Bytes.toNat (bytes.take headLength)
  if bytes.length < headLength then .error .noLength
  else if partLimit < length then .error .nonceTooLong
  else if rest.length ≤ length then .error .noCipherText
  else if partLimit < rest.length - length then .error .cipherTextTooLong
  else if length ≠ nonceLength then .error .nonceLength
  else .ok ⟨rest.take length, rest.drop length⟩

end Frame

end BearerIdentity
