import BearerIdentity.Crypto.Modular
import BearerIdentity.Crypto.Sha2

set_option autoImplicit false

namespace BearerIdentity.Rsa

/-- A public key whose parts are acceptable. -/
structure PublicKey where
  modulus : Nat
  exponent : Nat
  /-- Bits of the modulus. -/
  bits : Nat

namespace PublicKey

/-- The number of bytes of the modulus and of every signature. -/
def size (key : PublicKey) : Nat := (key.bits + 7) / 8

/-- An odd modulus of the right size and an odd exponent from 3 below `2 ^ 33`, both written without
leading zero bytes. -/
def ofBytes? (modulus exponent : Bytes) : Option PublicKey :=
  let n := modulus.toNat
  let e := exponent.toNat
  let bits := n.log2 + 1
  if modulus.head? = some 0 ∨ exponent.head? = some 0 ∨ n % 2 = 0 ∨ e % 2 = 0 then none
  else if (bits + 7) / 8 * 8 < 2048 ∨ 8192 < bits then none
  else if 5 < exponent.length ∨ e < 3 ∨ Nat.pow 2 33 ≤ e then none
  else some ⟨n, e, bits⟩

def recover? (key : PublicKey) (signature : Bytes) : Option Bytes :=
  let value := signature.toNat
  if signature.length ≠ key.size ∨ key.modulus ≤ value ∨ value = 0 then none
  else some (Bytes.ofNat key.size (Modular.pow key.modulus value key.exponent))

end PublicKey

inductive Padding where
  | pkcs1
  | pss
  deriving DecidableEq, Repr

namespace Pkcs1

def digestPrefix (variant : Sha2.Variant) : Bytes :=
  let size := UInt8.ofNat variant.digestBytes
  let name : UInt8 := if variant.digestBytes = 32 then 1 else if variant.digestBytes = 48 then 2 else 3
  [0x30, size + 17, 0x30, 13, 0x06, 9, 0x60, 0x86, 0x48, 0x01, 0x65, 0x03, 0x04, 0x02, name,
    0x05, 0x00, 0x04, size]

def encode (variant : Sha2.Variant) (size : Nat) (message : Bytes) : Bytes :=
  let digest := digestPrefix variant ++ Sha2.hash variant message
  [0, 1] ++ List.replicate (size - digest.length - 3) 0xff ++ [0] ++ digest

end Pkcs1

namespace Pss

def mask (variant : Sha2.Variant) (seed : Bytes) (size : Nat) : Bytes :=
  let count := (size + variant.digestBytes - 1) / variant.digestBytes
  ((List.range count).flatMap fun counter =>
    Sha2.hash variant (seed ++ Bytes.ofNat 4 counter)).take size

/-- Checks an encoded message of `bits` bits whose salt is as long as the digest. -/
def check (variant : Sha2.Variant) (bits : Nat) (message encoded : Bytes) : Bool :=
  let hashSize := variant.digestBytes
  let size := (bits + 7) / 8
  let spare := 8 * size - bits
  let top := encoded.take (encoded.length - size)
  let encoded := encoded.drop (encoded.length - size)
  let dataSize := size - hashSize - 1
  let maskedData := encoded.take dataSize
  let digest := (encoded.drop dataSize).take hashSize
  let firstMask : UInt8 := UInt8.ofNat (255 / Nat.pow 2 spare)
  let unmasked := Bytes.xor maskedData (mask variant digest dataSize)
  let data := match unmasked with
    | first :: rest => (first &&& firstMask) :: rest
    | [] => []
  let filler := data.take (dataSize - hashSize - 1)
  let salt := data.drop (dataSize - hashSize)
  let expected := Sha2.hash variant
    (List.replicate 8 0 ++ Sha2.hash variant message ++ salt)
  2 * hashSize + 2 ≤ size && top.all (· == 0) && encoded.getLast? == some 0xbc
    && (maskedData.headD 0 &&& ~~~firstMask) == 0 && filler.all (· == 0)
    && (data.drop (dataSize - hashSize - 1)).head? == some 1 && digest == expected

end Pss

/-- Whether a signature is valid; false for a key that is not acceptable. -/
def verify (padding : Padding) (variant : Sha2.Variant) (modulus exponent : Bytes)
    (message signature : Bytes) : Bool :=
  match PublicKey.ofBytes? modulus exponent with
  | none => false
  | some key =>
    match key.recover? signature with
    | none => false
    | some encoded =>
      match padding with
      | .pkcs1 => encoded == Pkcs1.encode variant key.size message
      | .pss => Pss.check variant (key.bits - 1) message encoded

end BearerIdentity.Rsa
